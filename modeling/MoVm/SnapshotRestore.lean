import MoVm.Snapshot

/-!
# What Restoring a Snapshot Does

A snapshot that is restored comes from a file, so nothing ties the size of a memory region to
its data, or the vCPU states to the vCPUs. This module follows `restore_snapshot` on any such
snapshot, whether it succeeds or fails.

Regions are tested and written one after the other. `restoredBlocks` lists the blocks that
end up written in a memory of a given layout: all regions up to the first one that is refused,
and of a region whose data does not fit, the part that does. `restoreMemory_eq` says that this
is what every call leaves behind.

## Main results

* `failed_restore_unchanged_iff`: when a failed restore has changed nothing.
* `restoreMemory_exact_iff`: when a successful restore has written the declared ranges.
* `restoreSnapshot_vcpus_iff`: when every saved vCPU state has reached the vCPU with its id.
  KVM fixes a bit of the flags and reports no `MXCSR`, so a state has to be one that it keeps.
-/

open Lib

namespace MoVm

variable {V : Type} {vm : VmMemory} {kvm : KvmVcpu V}

/-! ### The blocks a call writes -/

/-- The blocks that restoring these regions writes in a memory of this layout. -/
def restoredBlocks (L : Layout) : List MemoryRegion → List (ℕ × List UInt8)
  | [] => []
  | r :: rs =>
      match r.target L with
      | none => []
      | some g =>
          if r.guestAddr.toNat + r.data.length ≤ g.start + g.len then
            (r.guestAddr.toNat, r.data) :: restoredBlocks L rs
          else [(r.guestAddr.toNat, r.data.take (g.start + g.len - r.guestAddr.toNat))]

/-- **What a call of `restore_memory` leaves behind**, whether it succeeds or fails. -/
theorem restoreMemory_eq (vm : VmMemory) (m : GuestMemory) (regions : List MemoryRegion) :
    (restoreMemory vm m regions).1 =
      { m with bytes := patches m.bytes (restoredBlocks m.layout regions) } := by
  unfold restoreMemory
  induction regions generalizing m with
  | nil => rfl
  | cons r rs ih =>
      rw [forList, restoredBlocks]
      cases htarget : r.target m.layout with
      | none =>
          obtain ⟨e, he⟩ := restoreRegion_refused vm htarget
          rw [he]
          rfl
      | some g =>
          rcases restoreRegion_target vm htarget rfl with ⟨hfits, hnext⟩ | ⟨hlong, e, he⟩
          · rw [hnext, List.take_of_length_le (by omega)]
            simp only [hfits, if_true, patches_cons]
            exact ih _
          · rw [he]
            simp only [Nat.not_le.mpr hlong, if_false, patches_cons, patches_nil]
            rfl

/-! ### A failed restore -/

/-- Errors of the vCPU ioctls are plain I/O errors. -/
theorem restoreVcpuState_ne_hypervisor (kvm : KvmVcpu V) (vcpu : Vcpu V) (state : VcpuState)
    (e : HypervisorError) : (restoreVcpuState kvm vcpu state).2 ≠ .error (.hypervisor e) := by
  intro h
  unfold restoreVcpuState at h
  rcases h₁ : kvm.setRegs vcpu.fd state.regs with ⟨fd₁, e₁ | u⟩
  · simp only [h₁] at h
    cases h
  rcases h₂ : kvm.setSregs fd₁ state.sregs with ⟨fd₂, e₂ | u⟩
  · simp only [h₁, h₂] at h
    cases h
  rcases h₃ : kvm.setFpu fd₂ state.fpu with ⟨fd₃, e₃ | u⟩
  · simp only [h₁, h₂, h₃] at h
    cases h
  · simp only [h₁, h₂, h₃] at h
    cases h

theorem restoreVcpus_ne_hypervisor (kvm : KvmVcpu V) (states : List VcpuState)
    (vcpus : List (Vcpu V)) (e : HypervisorError) :
    (restoreVcpus kvm states vcpus).2 ≠ .error (.hypervisor e) := by
  induction states generalizing vcpus with
  | nil => exact fun h => nomatch h
  | cons state states ih =>
      cases vcpus with
      | nil => exact fun h => nomatch h
      | cons vcpu vcpus =>
          have hfirst := restoreVcpuState_ne_hypervisor kvm vcpu state e
          rcases hv : restoreVcpuState kvm vcpu state with ⟨vcpu', e' | u⟩
          · rw [hv] at hfirst
            simp only [restoreVcpus, hv]
            exact hfirst
          · simp only [restoreVcpus, hv]
            exact ih vcpus

/-- A failure in the memory regions leaves the vCPUs alone. -/
theorem restoreSnapshot_memory_error {m m' : GuestMemory} {vcpus vcpus' : List (Vcpu V)}
    {s : VmState} {e : HypervisorError}
    (h : restoreSnapshot vm kvm m vcpus s = ((m', vcpus'), .error (.hypervisor e))) :
    restoreMemory vm m s.memoryRegions = (m', some e) ∧ vcpus' = vcpus := by
  unfold restoreSnapshot at h
  rcases hmem : restoreMemory vm m s.memoryRegions with ⟨m₁, _ | e₁⟩
  · rw [hmem] at h
    exact absurd (congrArg Prod.snd h) (restoreVcpus_ne_hypervisor kvm _ _ e)
  · rw [hmem] at h
    obtain ⟨hmv, he⟩ := Prod.mk.inj h
    obtain ⟨rfl, rfl⟩ := Prod.mk.inj hmv
    cases he
    exact ⟨rfl, rfl⟩

/-- Blocks that are all there already change nothing. -/
theorem patches_eq_self_iff {f : ℕ → UInt8} {ws : List (ℕ × List UInt8)} :
    patches f ws = f ↔ ∀ a b, lastWrite ws a = some b → b = f a := by
  rw [funext_iff]
  refine forall_congr' fun a => ?_
  rw [patches_apply]
  cases lastWrite ws a with
  | none => exact iff_of_true rfl fun b h => nomatch h
  | some c => exact ⟨fun h b hb => Option.some.inj hb ▸ h, fun h => h c rfl⟩

/-- **When a failed restore has changed nothing**: if the memory regions of a snapshot make
`restore_snapshot` return an error, then memory and vCPUs are as before exactly when every byte
it has written by then was there already. -/
theorem failed_restore_unchanged_iff {m m' : GuestMemory} {vcpus vcpus' : List (Vcpu V)}
    {s : VmState} {e : HypervisorError}
    (h : restoreSnapshot vm kvm m vcpus s = ((m', vcpus'), .error (.hypervisor e))) :
    (m' = m ∧ vcpus' = vcpus) ↔
      ∀ a b, lastWrite (restoredBlocks m.layout s.memoryRegions) a = some b → b = m.bytes a := by
  obtain ⟨hmem, rfl⟩ := restoreSnapshot_memory_error h
  have hm' : m' = _ := hmem ▸ restoreMemory_eq vm m s.memoryRegions
  rw [← patches_eq_self_iff, and_iff_left rfl, hm']
  constructor
  · exact fun heq => congrArg GuestMemory.bytes heq
  · intro heq
    rw [heq]

/-- A snapshot with one good region and one that lies outside a memory of one page. -/
def VmState.secondOutside : VmState where
  memoryRegions :=
    [{ guestAddr := 0, size := 1, data := [9] }, { guestAddr := 0x100000, size := 1, data := [9] }]
  vcpuStates := []
  deviceStates := []

theorem failed_restore_unchanged_secondOutside :
    ∃ m' e, restoreSnapshot VmMemory.mmap PlainVcpu.kvm (GuestMemory.page [9]) [] .secondOutside =
        ((m', []), .error (.hypervisor e)) ∧ m' = GuestMemory.page [9] := by
  obtain ⟨m', e, h⟩ : ∃ m' e, restoreSnapshot VmMemory.mmap PlainVcpu.kvm (GuestMemory.page [9]) []
      .secondOutside = ((m', []), .error (.hypervisor e)) := ⟨_, _, rfl⟩
  refine ⟨m', e, h, ((failed_restore_unchanged_iff h).mpr fun a b hb => ?_).1⟩
  have hblocks : restoredBlocks (GuestMemory.page [9]).layout VmState.secondOutside.memoryRegions =
      [(0, [9])] := rfl
  rw [hblocks] at hb
  cases a with
  | zero => exact (Option.some.inj hb).symm
  | succ a => cases hb

/-- Restoring it fails, and the first region has been written. -/
theorem failed_restore_writes :
    ∃ m' e, restoreSnapshot VmMemory.mmap PlainVcpu.kvm (GuestMemory.page []) [] .secondOutside =
        ((m', []), .error (.hypervisor e)) ∧ m'.bytes 0 = 9 ∧ (GuestMemory.page []).bytes 0 = 0 :=
  ⟨_, _, rfl, rfl, rfl⟩

/-! ### A successful restore -/

/-- The last region in the list that declares the address. -/
def lastDeclared (regions : List MemoryRegion) (a : ℕ) : Option MemoryRegion :=
  regions.reverse.find? fun r =>
    r.guestAddr.toNat ≤ a ∧ a < r.guestAddr.toNat + r.size.toNat

/-- The address has been restored as declared: its byte is that of the last region that declares
it, or the old one. -/
def RestoredAsDeclared (m m' : GuestMemory) (regions : List MemoryRegion) (a : ℕ) : Prop :=
  match lastDeclared regions a with
  | some r => r.data[a - r.guestAddr.toNat]? = some (m'.bytes a)
  | none => m'.bytes a = m.bytes a

/-- At this address the data of the regions agrees with what they declare: if a region declares
the address then the last one to do so has a byte for it, which no other region overwrites with
another one; if none does, data that reaches it has the byte that is there already. -/
def DataAgrees (m : GuestMemory) (regions : List MemoryRegion) (a : ℕ) : Prop :=
  match lastDeclared regions a with
  | some r => ∃ b, r.data[a - r.guestAddr.toNat]? = some b ∧
      lastWrite (regions.map fun r => (r.guestAddr.toNat, r.data)) a = some b
  | none => ∀ b, lastWrite (regions.map fun r => (r.guestAddr.toNat, r.data)) a = some b →
      b = m.bytes a

theorem lastDeclared_some {regions : List MemoryRegion} {a : ℕ} {r : MemoryRegion}
    (h : lastDeclared regions a = some r) : r ∈ regions ∧ r.guestAddr.toNat ≤ a := by
  have hr := List.find?_some (p := fun r : MemoryRegion =>
    decide (r.guestAddr.toNat ≤ a ∧ a < r.guestAddr.toNat + r.size.toNat)) h
  exact ⟨List.mem_reverse.mp (List.mem_of_find?_eq_some h), (of_decide_eq_true hr).1⟩

/-- A block with a byte for the address writes there. -/
theorem lastWrite_isSome {ws : List (ℕ × List UInt8)} {w : ℕ × List UInt8} (hw : w ∈ ws) {a : ℕ}
    (hle : w.1 ≤ a) {b : UInt8} (hb : w.2[a - w.1]? = some b) : ∃ c, lastWrite ws a = some c := by
  induction ws with
  | nil => exact absurd hw List.not_mem_nil
  | cons v ws ih =>
      rw [lastWrite]
      cases hrest : lastWrite ws a with
      | some c => exact ⟨c, rfl⟩
      | none =>
          rcases List.mem_cons.mp hw with rfl | hw
          · exact ⟨b, by rw [if_pos hle, hb, Option.none_or]⟩
          · obtain ⟨c, hc⟩ := ih hw
            rw [hrest] at hc
            cases hc

/-- **When a successful restore has written the declared ranges**: every address is restored as
declared exactly when the data agrees with the declared sizes everywhere. -/
theorem restoreMemory_exact_iff {m m' : GuestMemory} {regions : List MemoryRegion}
    (h : restoreMemory vm m regions = (m', none)) :
    (∀ a, RestoredAsDeclared m m' regions a) ↔ ∀ a, DataAgrees m regions a := by
  obtain ⟨-, hbytes⟩ := restoreMemory_ok h
  refine forall_congr' fun a => ?_
  rw [RestoredAsDeclared, DataAgrees, hbytes, patches_apply]
  cases hlast : lastDeclared regions a with
  | none =>
      simp only
      cases lastWrite (regions.map fun r => (r.guestAddr.toNat, r.data)) a with
      | none => exact iff_of_true rfl fun b hb => nomatch hb
      | some c => exact ⟨fun hc b hb => Option.some.inj hb ▸ hc, fun hc => hc c rfl⟩
  | some r =>
      simp only
      obtain ⟨hmem, hle⟩ := lastDeclared_some hlast
      cases hb : r.data[a - r.guestAddr.toNat]? with
      | none => exact iff_of_false (fun h => nomatch h) fun ⟨b, h, _⟩ => nomatch h
      | some b =>
          -- the last region that declares the address writes there, so some byte is written
          have hblock : (r.guestAddr.toNat, r.data) ∈
              regions.map fun r => (r.guestAddr.toNat, r.data) :=
            List.mem_map_of_mem (f := fun r : MemoryRegion => (r.guestAddr.toNat, r.data)) hmem
          obtain ⟨c, hc⟩ := lastWrite_isSome hblock hle hb
          rw [hc, Option.getD_some]
          constructor
          · exact fun h => ⟨c, h, rfl⟩
          · rintro ⟨b', hb', hc'⟩
            exact hb'.trans hc'.symm

/-- Data of the declared size agrees with it everywhere. -/
theorem dataAgrees_of_size {regions : List MemoryRegion}
    (h : ∀ r ∈ regions, r.data.length = r.size.toNat) (m : GuestMemory) (a : ℕ) :
    DataAgrees m regions a := by
  have hwrite : lastWrite (regions.map fun r => (r.guestAddr.toNat, r.data)) a =
      (lastDeclared regions a).bind fun r => r.data[a - r.guestAddr.toNat]? := by
    rw [lastWrite_eq_find, ← List.map_reverse, List.find?_map, Option.bind_map, lastDeclared,
      List.find?_congr]
    · rfl
    · intro r hr
      rw [Function.comp_apply, h r (List.mem_reverse.mp hr)]
  rw [DataAgrees, hwrite]
  cases hlast : lastDeclared regions a with
  | none => exact fun b hb => nomatch hb
  | some r =>
      have hr := List.find?_some (p := fun r : MemoryRegion =>
        decide (r.guestAddr.toNat ≤ a ∧ a < r.guestAddr.toNat + r.size.toNat)) hlast
      obtain ⟨hlo, hhi⟩ := of_decide_eq_true hr
      have hlen := h r (lastDeclared_some hlast).1
      have hlt : a - r.guestAddr.toNat < r.data.length := by omega
      exact ⟨_, List.getElem?_eq_getElem hlt, List.getElem?_eq_getElem hlt⟩

/-- A region of one byte at address 3 that declares this size. -/
def MemoryRegion.sized (size : UInt64) : MemoryRegion where
  guestAddr := 3
  size := size
  data := [9]

theorem restoreMemory_exact_sized :
    ∃ m', restoreMemory VmMemory.mmap (GuestMemory.page []) [.sized 1] = (m', none) ∧
      ∀ a, RestoredAsDeclared (GuestMemory.page []) m' [.sized 1] a := by
  obtain ⟨m', h⟩ : ∃ m', restoreMemory VmMemory.mmap (GuestMemory.page []) [.sized 1] =
      (m', none) := ⟨_, rfl⟩
  refine ⟨m', h, (restoreMemory_exact_iff h).mpr fun a => ?_⟩
  exact dataAgrees_of_size (List.forall_mem_singleton.mpr rfl) _ a

/-- The region that declares no address at all is restored as well, and changes memory. -/
theorem restoreMemory_excess :
    ∃ m', restoreMemory VmMemory.mmap (GuestMemory.page []) [.sized 0] = (m', none) ∧
      m'.bytes 3 = 9 ∧ ¬RestoredAsDeclared (GuestMemory.page []) m' [.sized 0] 3 :=
  ⟨_, rfl, rfl, fun h => (by decide : (9 : UInt8) ≠ 0) h⟩

/-! ### vCPUs -/

/-- The state has the same registers. -/
def VcpuState.SameRegs (s t : VcpuState) : Prop :=
  s.regs = t.regs ∧ s.sregs = t.sregs ∧ s.fpu = t.fpu

theorem Restored.iff_sameRegs {state state' : VcpuState} {vcpu : Vcpu V}
    (h : Restored kvm state vcpu) : Restored kvm state' vcpu ↔ state.SameRegs state' := by
  obtain ⟨hr, hs, hf⟩ := h
  simp only [Restored, hr, hs, hf, Except.ok.injEq, VcpuState.SameRegs]

/-- At each position, the vCPU after the call has the registers of a state exactly when the state
at this position has them once it is set, or, if there is none, the vCPU before the call. -/
theorem restored_iff_at {states : List VcpuState} {vcpus vcpus' : List (Vcpu V)}
    (h : restoreVcpus kvm states vcpus = (vcpus', .ok ())) {i : ℕ} {vcpu vcpu' : Vcpu V}
    (hi : vcpus[i]? = some vcpu) (hi' : vcpus'[i]? = some vcpu') (state : VcpuState) :
    Restored kvm state vcpu' ↔ match states[i]? with
      | some state' => (state'.kept kvm).SameRegs state
      | none => Restored kvm state vcpu := by
  obtain ⟨-, hsome, hnone⟩ := (restoreVcpus_spec h).2 i vcpu vcpu' hi hi'
  cases hst : states[i]? with
  | some state' => exact (hsome state' hst).iff_sameRegs
  | none => rw [hnone hst]

/-- **When every saved vCPU state has arrived**: after a successful restore, every state is found
in a vCPU with its id exactly when some vCPU has this id and stands at the position of a state that
KVM keeps with the same registers, or, behind the last state, has had these registers all along. -/
theorem restoreSnapshot_vcpus_iff {m m' : GuestMemory} {vcpus vcpus' : List (Vcpu V)}
    {s : VmState} (h : restoreSnapshot vm kvm m vcpus s = ((m', vcpus'), .ok ())) :
    (∀ state ∈ s.vcpuStates, ∃ vcpu ∈ vcpus', vcpu.id = state.id.toUInt64 ∧
        Restored kvm state vcpu) ↔
      ∀ state ∈ s.vcpuStates, ∃ (i : ℕ) (vcpu : Vcpu V), vcpus[i]? = some vcpu ∧
        vcpu.id = state.id.toUInt64 ∧
        match s.vcpuStates[i]? with
        | some state' => (state'.kept kvm).SameRegs state
        | none => Restored kvm state vcpu := by
  obtain ⟨-, hv⟩ := restoreSnapshot_ok h
  obtain ⟨hlen, hspec⟩ := restoreVcpus_spec hv
  refine forall₂_congr fun state _ => ?_
  constructor
  · rintro ⟨vcpu', hmem, hid, hres⟩
    obtain ⟨i, hi'⟩ := List.getElem?_of_mem hmem
    obtain ⟨hlt, -⟩ := List.getElem?_eq_some_iff.mp hi'
    have hi := List.getElem?_eq_getElem (hlen ▸ hlt : i < vcpus.length)
    exact ⟨i, _, hi, (hspec i _ _ hi hi').1.symm.trans hid,
      (restored_iff_at hv hi hi' state).mp hres⟩
  · rintro ⟨i, vcpu, hi, hid, hres⟩
    obtain ⟨hlt, -⟩ := List.getElem?_eq_some_iff.mp hi
    have hi' := List.getElem?_eq_getElem (hlen.symm ▸ hlt : i < vcpus'.length)
    exact ⟨_, List.getElem_mem _, (hspec i _ _ hi hi').1.trans hid,
      (restored_iff_at hv hi hi' state).mpr hres⟩

/-- The state of a vCPU with this id, stopped at this address. -/
def VcpuState.numbered (id : UInt32) (rip : UInt64) : VcpuState where
  id := id
  regs := bootRegs rip 0x7000 default
  sregs := bootSregs .reset
  fpu := (bootFpu default).kept
  msrs := []

/-- Two states in the order of the vCPUs arrive. -/
theorem restoreSnapshot_vcpus_two :
    ∃ m' vcpus', restoreSnapshot VmMemory.mmap PlainVcpu.kvm (GuestMemory.page [])
        [⟨.stoppedAt 0, 0⟩, ⟨.stoppedAt 0, 1⟩] ⟨[], [.numbered 0 5, .numbered 1 6], []⟩ =
          ((m', vcpus'), .ok ()) ∧
      ∀ state ∈ [VcpuState.numbered 0 5, .numbered 1 6], ∃ vcpu ∈ vcpus',
        vcpu.id = state.id.toUInt64 ∧ Restored PlainVcpu.kvm state vcpu := by
  obtain ⟨m', vcpus', h⟩ : ∃ m' vcpus', restoreSnapshot VmMemory.mmap PlainVcpu.kvm
      (GuestMemory.page []) [⟨.stoppedAt 0, 0⟩, ⟨.stoppedAt 0, 1⟩]
      ⟨[], [.numbered 0 5, .numbered 1 6], []⟩ = ((m', vcpus'), .ok ()) := ⟨_, _, rfl⟩
  refine ⟨m', vcpus', h, (restoreSnapshot_vcpus_iff h).mpr ?_⟩
  exact List.forall_mem_cons.mpr ⟨⟨0, ⟨.stoppedAt 0, 0⟩, rfl, rfl, rfl, rfl, rfl⟩,
    List.forall_mem_singleton.mpr ⟨1, ⟨.stoppedAt 0, 1⟩, rfl, rfl, rfl, rfl, rfl⟩⟩

/-- Two states restored into a machine with one vCPU: the call succeeds and the second state is
lost. -/
theorem second_state_lost :
    ∃ m' vcpus', restoreSnapshot VmMemory.mmap PlainVcpu.kvm (GuestMemory.page [])
        [⟨.stoppedAt 0, 0⟩] ⟨[], [.numbered 0 5, .numbered 1 6], []⟩ = ((m', vcpus'), .ok ()) ∧
      ∀ vcpu ∈ vcpus', vcpu.id ≠ (VcpuState.numbered 1 6).id.toUInt64 :=
  ⟨_, _, rfl, by decide⟩

end MoVm
