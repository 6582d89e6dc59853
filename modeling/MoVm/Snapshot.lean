import MoVm.GuestMemory
import MoVm.Lib.Chunks
import MoVm.Lib.Loop
import MoVm.Vcpu

/-!
# Snapshots

The model of `SnapshotManager` in `snapshot.rs`, without the file format. Memory is saved
region by region in chunks of 4096 bytes, and restored in chunks through `find_region`;
vCPUs are saved and restored by position. The manager shares guest memory and the vCPUs
with the rest of the machine, so restoring takes and returns both.

Errors are the boxed errors of the source: those of the hypervisor, plain I/O errors and
errors of the file format.

## Main results

* `restoreMemory_ok`, `restoreVcpus_ok`: what a successful restore has written.
* `snapshot_restore`: restoring a snapshot brings back all of memory and the registers
  of every vCPU, whatever has happened to them since.
-/

open Lib

namespace MoVm

/-! ### Snapshot data -/

/-- A region of guest memory with its bytes. -/
structure MemoryRegion where
  guestAddr : UInt64
  size : UInt64
  data : List UInt8
deriving DecidableEq

/-- The registers of a vCPU. -/
structure VcpuState where
  id : UInt32
  regs : KvmRegs
  sregs : KvmSregs
  fpu : KvmFpu
  msrs : List KvmMsrEntry
deriving DecidableEq

/-- The state of a device, as bytes. -/
structure DeviceState where
  deviceType : String
  state : List UInt8
deriving DecidableEq

/-- A snapshot. -/
structure VmState where
  memoryRegions : List MemoryRegion
  vcpuStates : List VcpuState
  deviceStates : List DeviceState
deriving DecidableEq

/-- The errors `snapshot.rs` boxes. -/
inductive SnapshotError
  | hypervisor (e : HypervisorError)
  | io (e : String)
  | bincode (e : String)
deriving DecidableEq

def SnapshotError.display : SnapshotError → String
  | .hypervisor e => e.display
  | .io e => e
  | .bincode e => e

variable {V : Type} (vm : VmMemory) (kvm : KvmVcpu V)

/-! ### Memory -/

/-- Read one chunk of a region. -/
def readChunk (m : GuestMemory) (region : GuestRegion) (chunk : ℕ × List UInt8) :
    Except HypervisorError (List UInt8) :=
  let offset := chunk.1 * 4096
  match vm.regionReadSlice m region offset chunk.2 with
  | (bytes, .ok ()) => .ok bytes
  | (_, .error e) =>
      .error (.memoryError ("Failed to read memory at 0x" ++ hex offset ++ ": " ++ e))

/-- The body of the loop of `save_memory`. -/
def saveRegion (m : GuestMemory) (region : GuestRegion) :
    Except HypervisorError MemoryRegion :=
  match (chunks 4096 (List.replicate region.len 0)).mapM (readChunk vm m region) with
  | .error e => .error e
  | .ok pieces =>
      .ok
        { guestAddr := UInt64.ofNat region.start
          size := UInt64.ofNat region.len
          data := pieces.flatten }

/-- `SnapshotManager::save_memory`. -/
def saveMemory (m : GuestMemory) : Except HypervisorError (List MemoryRegion) :=
  m.layout.regions.mapM (saveRegion vm m)

/-- Write one chunk into a region, from `regionOffset` on. -/
def writeChunk (region : GuestRegion) (regionOffset guestAddr : ℕ) (m : GuestMemory)
    (chunk : ℕ × List UInt8) : Flow GuestMemory HypervisorError :=
  match vm.regionWriteSlice m region (regionOffset + chunk.1 * 4096) chunk.2 with
  | (m', .ok ()) => .next m'
  | (m', .error e) =>
      .exit m' (.memoryError
        ("Failed to write memory at 0x" ++ hex (guestAddr + chunk.1 * 4096) ++ ": " ++ e))

/-- The body of the loop of `restore_memory`. -/
def restoreRegion (m : GuestMemory) (memRegion : MemoryRegion) :
    Flow GuestMemory HypervisorError :=
  let guestAddr := memRegion.guestAddr.toNat
  match vm.findRegion m guestAddr with
  | none =>
      .exit m (.memoryError ("No memory region found for guest address 0x" ++ hex guestAddr))
  | some region =>
      if 2 ^ 64 ≤ region.start + region.len then .exit m (.memoryError "Region end overflow")
      else if 2 ^ 64 ≤ guestAddr + memRegion.size.toNat then
        .exit m (.memoryError "Memory region end overflow")
      else if guestAddr < region.start ∨
          region.start + region.len < guestAddr + memRegion.size.toNat then
        .exit m (.memoryError
          ("Memory region 0x" ++ hex guestAddr ++ " size " ++ toString memRegion.size.toNat ++
            " doesn't fit in guest memory"))
      else
        match forList (writeChunk vm region (guestAddr - region.start) guestAddr)
            (chunks 4096 memRegion.data) m with
        | (m', none) => .next m'
        | (m', some e) => .exit m' e

/-- `SnapshotManager::restore_memory`. -/
def restoreMemory (m : GuestMemory) (regions : List MemoryRegion) :
    GuestMemory × Option HypervisorError :=
  forList (restoreRegion vm) regions m

/-! ### vCPUs -/

/-- `SnapshotManager::save_vcpu_state`. -/
def saveVcpuState (vcpu : Vcpu V) : Except SnapshotError VcpuState :=
  match kvm.getRegs vcpu.fd with
  | .error e => .error (.io e)
  | .ok regs =>
      match kvm.getSregs vcpu.fd with
      | .error e => .error (.io e)
      | .ok sregs =>
          match kvm.getFpu vcpu.fd with
          | .error e => .error (.io e)
          | .ok fpu => .ok { id := vcpu.id.toUInt32, regs, sregs, fpu, msrs := [] }

/-- `SnapshotManager::restore_vcpu_state`. -/
def restoreVcpuState (vcpu : Vcpu V) (state : VcpuState) :
    Vcpu V × Except SnapshotError Unit :=
  match kvm.setRegs vcpu.fd state.regs with
  | (fd, .error e) => ({ vcpu with fd }, .error (.io e))
  | (fd, .ok ()) =>
      match kvm.setSregs fd state.sregs with
      | (fd, .error e) => ({ vcpu with fd }, .error (.io e))
      | (fd, .ok ()) =>
          match kvm.setFpu fd state.fpu with
          | (fd, .error e) => ({ vcpu with fd }, .error (.io e))
          | (fd, .ok ()) => ({ vcpu with fd }, .ok ())

/-- The loop of `restore_snapshot` over the vCPU states: the state at position `i` goes to
the vCPU at position `i`, and states without a vCPU are skipped. -/
def restoreVcpus : List VcpuState → List (Vcpu V) → List (Vcpu V) × Except SnapshotError Unit
  | [], vcpus => (vcpus, .ok ())
  | _ :: _, [] => ([], .ok ())
  | state :: states, vcpu :: vcpus =>
      match restoreVcpuState kvm vcpu state with
      | (vcpu', .error e) => (vcpu' :: vcpus, .error e)
      | (vcpu', .ok ()) =>
          let (vcpus', r) := restoreVcpus states vcpus
          (vcpu' :: vcpus', r)

/-! ### Snapshots -/

/-- `SnapshotManager::create_snapshot`. -/
def createSnapshot (m : GuestMemory) (vcpus : List (Vcpu V)) : Except SnapshotError VmState :=
  match saveMemory vm m with
  | .error e => .error (.hypervisor e)
  | .ok memoryRegions =>
      match vcpus.mapM (saveVcpuState kvm) with
      | .error e => .error e
      | .ok vcpuStates => .ok { memoryRegions, vcpuStates, deviceStates := [] }

/-- `restore_snapshot`: the memory and the vCPUs afterwards, and the result. -/
def restoreSnapshot (m : GuestMemory) (vcpus : List (Vcpu V)) (state : VmState) :
    (GuestMemory × List (Vcpu V)) × Except SnapshotError Unit :=
  match restoreMemory vm m state.memoryRegions with
  | (m', some e) => ((m', vcpus), .error (.hypervisor e))
  | (m', none) =>
      let (vcpus', r) := restoreVcpus kvm state.vcpuStates vcpus
      ((m', vcpus'), r)

/-! ### What saving memory returns -/

variable {vm kvm}

/-- The region with all of its bytes. -/
def wholeRegion (m : GuestMemory) (region : GuestRegion) : MemoryRegion where
  guestAddr := UInt64.ofNat region.start
  size := UInt64.ofNat region.len
  data := slice m.bytes region.start region.len

theorem toNat_guestAddr_wholeRegion (m : GuestMemory) (region : GuestRegion) :
    (wholeRegion m region).guestAddr.toNat = region.start := by
  have := region.end_lt
  rw [wholeRegion, UInt64.toNat_ofNat', Nat.mod_eq_of_lt (by omega)]

theorem toNat_size_wholeRegion (m : GuestMemory) (region : GuestRegion) :
    (wholeRegion m region).size.toNat = region.len := by
  have := region.end_lt
  rw [wholeRegion, UInt64.toNat_ofNat', Nat.mod_eq_of_lt (by omega)]

/-- Each region is saved whole. -/
theorem saveRegion_eq {m : GuestMemory} {region : GuestRegion}
    (hr : region ∈ m.layout.regions) : saveRegion vm m region = .ok (wholeRegion m region) := by
  have hchunks : (chunks 4096 (List.replicate region.len 0)).mapM (readChunk vm m region) =
      .ok ((chunks 4096 (List.replicate region.len (0 : UInt8))).map fun c =>
        slice m.bytes (region.start + c.1 * 4096) c.2.length) := by
    rw [mapM_ok_iff, List.forall₂_map_right_iff, List.forall₂_same]
    intro c hc
    obtain ⟨hne, hle⟩ := mem_chunks (by decide) hc
    rw [List.length_replicate] at hle
    rw [readChunk, vm.regionReadSlice_inside hr hne hle]
  rw [saveRegion, hchunks]
  simp only
  rw [flatten_chunks_slice (by decide), List.length_replicate, wholeRegion]

/-- **Saving memory always succeeds**, and saves every region whole. -/
theorem saveMemory_eq (vm : VmMemory) (m : GuestMemory) :
    saveMemory vm m = .ok (m.layout.regions.map (wholeRegion m)) := by
  rw [saveMemory, mapM_ok_iff, List.forall₂_map_right_iff, List.forall₂_same]
  exact fun r hr => saveRegion_eq hr

/-! ### What restoring memory writes -/

/-- A chunk that fits into the region is written. -/
theorem writeChunk_fits (vm : VmMemory) {region : GuestRegion} (regionOffset guestAddr : ℕ)
    {m : GuestMemory} (hr : region ∈ m.layout.regions) {i : ℕ} {bs : List UInt8} (hbs : bs ≠ [])
    (hfits : regionOffset + i * 4096 + bs.length ≤ region.len) :
    writeChunk vm region regionOffset guestAddr m (i, bs) =
      .next (m.withBlock (region.start + (regionOffset + i * 4096)) bs) := by
  obtain ⟨res, hw, hok⟩ := vm.regionWriteSlice_eq (regionOffset + i * 4096) hr hbs
  obtain rfl := hok.mpr hfits
  rw [writeChunk]
  simp only [hw]
  rw [List.take_of_length_le (by omega)]

/-- Of a chunk that does not fit, what fits is written. -/
theorem writeChunk_cut (vm : VmMemory) {region : GuestRegion} (regionOffset guestAddr : ℕ)
    {m : GuestMemory} (hr : region ∈ m.layout.regions) {i : ℕ} {bs : List UInt8} (hbs : bs ≠ [])
    (hcut : region.len < regionOffset + i * 4096 + bs.length) :
    ∃ e, writeChunk vm region regionOffset guestAddr m (i, bs) =
      .exit (m.withBlock (region.start + (regionOffset + i * 4096))
        (bs.take (region.len - (regionOffset + i * 4096)))) e := by
  obtain ⟨res, hw, hok⟩ := vm.regionWriteSlice_eq (regionOffset + i * 4096) hr hbs
  cases res with
  | ok u => exact absurd (hok.mp rfl) (Nat.not_le.mpr hcut)
  | error e =>
      rw [writeChunk]
      simp only [hw]
      exact ⟨_, rfl⟩

/-- Writing the chunks of a block writes what fits into the region, and succeeds when all of it
does. -/
theorem writeChunks_spec (vm : VmMemory) {region : GuestRegion} (regionOffset guestAddr : ℕ)
    {m : GuestMemory} (hr : region ∈ m.layout.regions) (data : List UInt8) :
    ∃ r, forList (writeChunk vm region regionOffset guestAddr) (chunks 4096 data) m =
        (m.withBlock (region.start + regionOffset) (data.take (region.len - regionOffset)), r) ∧
      (r = none ↔ data = [] ∨ regionOffset + data.length ≤ region.len) := by
  have h := chunksFrom_induction (n := 4096) (motive := fun fuel i l => ∀ m : GuestMemory,
    region ∈ m.layout.regions →
    ∃ r, forList (writeChunk vm region regionOffset guestAddr) (chunksFrom 4096 fuel i l) m =
        (m.withBlock (region.start + (regionOffset + i * 4096))
          (l.take (region.len - (regionOffset + i * 4096))), r) ∧
      (r = none ↔ l = [] ∨ regionOffset + i * 4096 + l.length ≤ region.len))
    (by decide) ?_ ?_ (i := 0) (Nat.le_refl data.length) m hr
  · rwa [Nat.zero_mul, Nat.add_zero] at h
  · intro fuel i m _
    refine ⟨none, ?_, iff_of_true rfl (Or.inl rfl)⟩
    rw [chunksFrom_nil, List.take_nil, GuestMemory.withBlock, patch_nil]
    rfl
  · intro fuel i l hl _ ih m hr
    have hpos := List.length_pos_iff.mpr hl
    have hlen : (l.take 4096).length = min 4096 l.length := by rw [List.length_take]
    have hne : l.take 4096 ≠ [] := List.ne_nil_of_length_pos (by omega)
    have hfits := writeChunk_fits vm regionOffset guestAddr hr (i := i) hne
    have hcut := writeChunk_cut vm regionOffset guestAddr hr (i := i) hne
    rw [chunksFrom_cons 4096 fuel i hl, forList]
    generalize hoff : regionOffset + i * 4096 = off at hfits hcut ⊢
    have hnext : regionOffset + (i + 1) * 4096 = off + 4096 := by
      rw [← hoff, Nat.add_mul, Nat.one_mul, Nat.add_assoc]
    rcases Nat.lt_or_ge region.len (off + (l.take 4096).length) with hlt | hle
    · obtain ⟨e, he⟩ := hcut hlt
      simp only [he]
      refine ⟨_, by rw [List.take_take, Nat.min_eq_left (by omega)], ?_⟩
      simp only [hl, false_or, reduceCtorEq, false_iff]
      omega
    · obtain ⟨r, hrest, hr'⟩ := ih (m.withBlock (region.start + off) (l.take 4096)) hr
      rw [hnext] at hrest hr'
      simp only [hfits hle, hrest]
      refine ⟨r, ?_, ?_⟩
      · simp only [GuestMemory.withBlock]
        rw [← Nat.add_assoc, ← Nat.sub_sub, patch_take_drop _ _ (by omega)]
      · rw [hr', List.drop_eq_nil_iff, List.length_drop]
        simp only [hl, false_or]
        omega

/-- The region of guest memory that a saved region is written to: it has to contain the first
address and reach as far as the declared size. -/
def MemoryRegion.target (L : Layout) (memRegion : MemoryRegion) : Option GuestRegion :=
  (L.regions.find? fun g => g.Contains memRegion.guestAddr.toNat).filter fun g =>
    memRegion.guestAddr.toNat + memRegion.size.toNat ≤ g.start + g.len

theorem VmMemory.findRegion_eq (vm : VmMemory) (m : GuestMemory) (a : ℕ) :
    vm.findRegion m a = m.layout.regions.find? fun g => g.Contains a := by
  cases hfind : m.layout.regions.find? fun g => g.Contains a with
  | some g =>
      have hcontains := List.find?_some (p := fun x : GuestRegion => decide (x.Contains a)) hfind
      exact (vm.findRegion_iff m a g).mpr
        ⟨List.mem_of_find?_eq_some hfind, of_decide_eq_true hcontains⟩
  | none =>
      cases hvm : vm.findRegion m a with
      | none => rfl
      | some g =>
          obtain ⟨hg, hcont⟩ := (vm.findRegion_iff m a g).mp hvm
          exact absurd (decide_eq_true hcont) (List.find?_eq_none.mp hfind g hg)

theorem MemoryRegion.target_some {L : Layout} {memRegion : MemoryRegion} {g : GuestRegion}
    (h : memRegion.target L = some g) : g ∈ L.regions ∧ g.Contains memRegion.guestAddr.toNat ∧
      memRegion.guestAddr.toNat + memRegion.size.toNat ≤ g.start + g.len := by
  obtain ⟨hfind, hle⟩ := Option.filter_eq_some_iff.mp h
  exact ⟨List.mem_of_find?_eq_some hfind, of_decide_eq_true (List.find?_some
    (p := fun x : GuestRegion => decide (x.Contains memRegion.guestAddr.toNat)) hfind),
    of_decide_eq_true hle⟩

/-- A saved region without a target is refused before anything is written. -/
theorem restoreRegion_refused (vm : VmMemory) {m : GuestMemory} {memRegion : MemoryRegion}
    (h : memRegion.target m.layout = none) :
    ∃ e, restoreRegion vm m memRegion = .exit m e := by
  rw [MemoryRegion.target, ← vm.findRegion_eq] at h
  cases hfind : vm.findRegion m memRegion.guestAddr.toNat with
  | none =>
      simp only [restoreRegion, hfind]
      exact ⟨_, rfl⟩
  | some g =>
      have hle := Option.filter_eq_none_iff.mp h g hfind
      rw [decide_eq_true_eq] at hle
      have hend := g.end_lt
      simp only [restoreRegion, hfind]
      rw [if_neg (by omega)]
      by_cases hover : 2 ^ 64 ≤ memRegion.guestAddr.toNat + memRegion.size.toNat
      · exact ⟨_, if_pos hover⟩
      · rw [if_neg hover, if_pos (Or.inr (by omega))]
        exact ⟨_, rfl⟩

/-- A saved region with a target is written, chunk by chunk, up to the end of the target. -/
theorem restoreRegion_target (vm : VmMemory) {m : GuestMemory} {memRegion : MemoryRegion}
    {g : GuestRegion} (h : memRegion.target m.layout = some g) {m' : GuestMemory}
    (hm' : m' = m.withBlock memRegion.guestAddr.toNat
      (memRegion.data.take (g.start + g.len - memRegion.guestAddr.toNat))) :
    (memRegion.guestAddr.toNat + memRegion.data.length ≤ g.start + g.len ∧
        restoreRegion vm m memRegion = .next m') ∨
      (g.start + g.len < memRegion.guestAddr.toNat + memRegion.data.length ∧
        ∃ e, restoreRegion vm m memRegion = .exit m' e) := by
  obtain ⟨hg, hcont, hle⟩ := MemoryRegion.target_some h
  have hend := g.end_lt
  have hfind := (vm.findRegion_iff m _ g).mpr ⟨hg, hcont⟩
  obtain ⟨hlo, hhi⟩ := hcont
  obtain ⟨r, hloop, hr⟩ := writeChunks_spec vm (memRegion.guestAddr.toNat - g.start)
    memRegion.guestAddr.toNat hg memRegion.data
  rw [Nat.add_sub_cancel' hlo, show g.len - (memRegion.guestAddr.toNat - g.start) =
    g.start + g.len - memRegion.guestAddr.toNat by omega, ← hm'] at hloop
  simp only [restoreRegion, hfind, hloop]
  rw [if_neg (by omega), if_neg (by omega), if_neg (by omega)]
  cases r with
  | none =>
      refine Or.inl ⟨?_, rfl⟩
      rcases hr.mp rfl with hnil | hfits
      · rw [hnil, List.length_nil]
        omega
      · omega
  | some e =>
      refine Or.inr ⟨?_, e, rfl⟩
      have hno := mt hr.mpr (Option.some_ne_none e)
      rw [not_or] at hno
      omega

/-- A region that is restored is written where it was saved from. -/
theorem restoreRegion_next {m m' : GuestMemory} {memRegion : MemoryRegion}
    (h : restoreRegion vm m memRegion = .next m') :
    m'.layout = m.layout ∧
      m'.bytes = patch m.bytes memRegion.guestAddr.toNat memRegion.data := by
  cases htarget : memRegion.target m.layout with
  | none =>
      obtain ⟨e, he⟩ := restoreRegion_refused vm htarget
      rw [he] at h
      cases h
  | some g =>
      rcases restoreRegion_target vm htarget rfl with ⟨hfits, hnext⟩ | ⟨-, e, he⟩
      · rw [hnext] at h
        obtain rfl := Flow.next.inj h
        rw [List.take_of_length_le (by omega)]
        exact ⟨rfl, rfl⟩
      · rw [he] at h
        cases h

/-- **What restoring memory writes**: when it succeeds, the saved blocks in order. -/
theorem restoreMemory_ok {m m' : GuestMemory} {regions : List MemoryRegion}
    (h : restoreMemory vm m regions = (m', none)) :
    m'.layout = m.layout ∧
      m'.bytes = patches m.bytes (regions.map fun r => (r.guestAddr.toNat, r.data)) := by
  rw [List.map_eq_flatMap]
  exact forList_patches _ (fun _ _ _ _ _ hnext => restoreRegion_next hnext) h

/-- A region that was saved whole is restored. -/
theorem restoreRegion_whole (vm : VmMemory) {m : GuestMemory} (m₀ : GuestMemory)
    {region : GuestRegion}
    (hr : region ∈ m.layout.regions) :
    ∃ m', restoreRegion vm m (wholeRegion m₀ region) = .next m' ∧ m'.layout = m.layout := by
  have hpos := region.len_pos
  have hstart := toNat_guestAddr_wholeRegion m₀ region
  have hsize := toNat_size_wholeRegion m₀ region
  have hlen : (wholeRegion m₀ region).data.length = region.len := length_slice _ _ _
  have hfind : vm.findRegion m region.start = some region :=
    (vm.findRegion_iff m _ region).mpr ⟨hr, Nat.le_refl _, by omega⟩
  have htarget : (wholeRegion m₀ region).target m.layout = some region := by
    rw [MemoryRegion.target, ← vm.findRegion_eq, hstart, hsize, hfind]
    exact Option.filter_some_pos (decide_eq_true (Nat.le_refl _))
  rcases restoreRegion_target vm htarget rfl with ⟨-, hnext⟩ | ⟨hlt, -⟩
  · exact ⟨_, hnext, rfl⟩
  · omega

/-! ### What restoring vCPUs writes -/

/-- The vCPU has the registers of the state. -/
def Restored (kvm : KvmVcpu V) (state : VcpuState) (vcpu : Vcpu V) : Prop :=
  kvm.getRegs vcpu.fd = .ok state.regs ∧ kvm.getSregs vcpu.fd = .ok state.sregs ∧
    kvm.getFpu vcpu.fd = .ok state.fpu

/-- A state that was saved has the registers of its vCPU. -/
theorem saveVcpuState_ok {vcpu : Vcpu V} {state : VcpuState}
    (h : saveVcpuState kvm vcpu = .ok state) : Restored kvm state vcpu := by
  unfold saveVcpuState at h
  cases hr : kvm.getRegs vcpu.fd with
  | error e => simp only [hr] at h; cases h
  | ok regs =>
      cases hs : kvm.getSregs vcpu.fd with
      | error e => simp only [hr, hs] at h; cases h
      | ok sregs =>
          cases hf : kvm.getFpu vcpu.fd with
          | error e => simp only [hr, hs, hf] at h; cases h
          | ok fpu =>
              simp only [hr, hs, hf] at h
              obtain rfl := Except.ok.inj h
              exact ⟨hr, hs, hf⟩

/-- The registers of the state as KVM reports them once they are set. -/
def VcpuState.kept (kvm : KvmVcpu V) (state : VcpuState) : VcpuState :=
  { state with
    regs := state.regs.kept
    sregs := kvm.keptSregs state.sregs
    fpu := state.fpu.kept }

/-- A state that some vCPU has is kept as it is. -/
theorem Restored.kept_eq {state : VcpuState} {vcpu : Vcpu V} (h : Restored kvm state vcpu) :
    state.kept kvm = state := by
  obtain ⟨hr, hs, hf⟩ := h
  rw [VcpuState.kept, kvm.getRegs_kept hr, kvm.getSregs_kept hs, kvm.getFpu_kept hf]

/-- What restoring a state leaves in the registers. -/
theorem restoreVcpuState_ok {vcpu vcpu' : Vcpu V} {state : VcpuState}
    (h : restoreVcpuState kvm vcpu state = (vcpu', .ok ())) :
    Restored kvm (state.kept kvm) vcpu' := by
  unfold restoreVcpuState at h
  rcases h₁ : kvm.setRegs vcpu.fd state.regs with ⟨fd₁, e | u⟩
  · simp only [h₁] at h
    cases (Prod.mk.inj h).2
  rcases h₂ : kvm.setSregs fd₁ state.sregs with ⟨fd₂, e | u⟩
  · simp only [h₁, h₂] at h
    cases (Prod.mk.inj h).2
  rcases h₃ : kvm.setFpu fd₂ state.fpu with ⟨fd₃, e | u⟩
  · simp only [h₁, h₂, h₃] at h
    cases (Prod.mk.inj h).2
  simp only [h₁, h₂, h₃] at h
  obtain rfl := (Prod.mk.inj h).1
  have hr₁ := kvm.getRegs_setRegs (congrArg Prod.snd h₁)
  have hr₂ := kvm.getRegs_setSregs fd₁ state.sregs
  have hr₃ := kvm.getRegs_setFpu fd₂ state.fpu
  have hs₂ := kvm.getSregs_setSregs (congrArg Prod.snd h₂)
  have hs₃ := kvm.getSregs_setFpu fd₂ state.fpu
  have hf₃ := kvm.getFpu_setFpu (congrArg Prod.snd h₃)
  rw [h₁] at hr₁
  rw [h₂] at hr₂ hs₂
  rw [h₃] at hr₃ hs₃ hf₃
  exact ⟨(hr₃.trans hr₂).trans hr₁, hs₃.trans hs₂, hf₃⟩

/-- A state that some vCPU has had is accepted by every vCPU. -/
theorem restoreVcpuState_saved {vcpu₀ : Vcpu V} {state : VcpuState}
    (h : Restored kvm state vcpu₀) (vcpu : Vcpu V) :
    ∃ vcpu', restoreVcpuState kvm vcpu state = (vcpu', .ok ()) := by
  unfold restoreVcpuState
  have h₁ := fun w => kvm.setRegs_ok (w := w) h.1
  have h₂ := fun w => kvm.setSregs_ok (w := w) h.2.1
  have h₃ := fun w => kvm.setFpu_ok (w := w) h.2.2
  rcases e₁ : kvm.setRegs vcpu.fd state.regs with ⟨fd₁, r₁⟩
  obtain rfl : r₁ = .ok () := by rw [← h₁ vcpu.fd, e₁]
  rcases e₂ : kvm.setSregs fd₁ state.sregs with ⟨fd₂, r₂⟩
  obtain rfl : r₂ = .ok () := by rw [← h₂ fd₁, e₂]
  rcases e₃ : kvm.setFpu fd₂ state.fpu with ⟨fd₃, r₃⟩
  obtain rfl : r₃ = .ok () := by rw [← h₃ fd₂, e₃]
  simp only [e₂, e₃]
  exact ⟨_, rfl⟩

theorem restoreVcpuState_id (kvm : KvmVcpu V) (vcpu : Vcpu V) (state : VcpuState) :
    (restoreVcpuState kvm vcpu state).1.id = vcpu.id := by
  unfold restoreVcpuState
  rcases kvm.setRegs vcpu.fd state.regs with ⟨fd₁, e | u⟩
  · rfl
  rcases h₂ : kvm.setSregs fd₁ state.sregs with ⟨fd₂, e | u⟩
  · simp only [h₂]
  rcases h₃ : kvm.setFpu fd₂ state.fpu with ⟨fd₃, e | u⟩
  · simp only [h₂, h₃]
  · simp only [h₂, h₃]

/-- What restoring does to each vCPU, when it succeeds: a vCPU with a state at its position has
the registers of that state as KVM keeps them, one without is left alone, and every vCPU keeps its
number. -/
theorem restoreVcpus_spec {states : List VcpuState} {vcpus vcpus' : List (Vcpu V)}
    (h : restoreVcpus kvm states vcpus = (vcpus', .ok ())) :
    vcpus'.length = vcpus.length ∧
      ∀ (i : ℕ) (vcpu vcpu' : Vcpu V), vcpus[i]? = some vcpu → vcpus'[i]? = some vcpu' →
        vcpu'.id = vcpu.id ∧
        (∀ state, states[i]? = some state → Restored kvm (state.kept kvm) vcpu') ∧
          (states[i]? = none → vcpu' = vcpu) := by
  induction states generalizing vcpus vcpus' with
  | nil =>
      obtain rfl := (Prod.mk.inj h).1
      refine ⟨rfl, fun i vcpu vcpu' hi hi' => ?_⟩
      obtain rfl := Option.some.inj (hi.symm.trans hi')
      refine ⟨rfl, fun state hs => ?_, fun _ => rfl⟩
      rw [List.getElem?_nil] at hs
      cases hs
  | cons state states ih =>
      cases vcpus with
      | nil =>
          obtain rfl := (Prod.mk.inj h).1
          exact ⟨rfl, fun i _ _ hi => by rw [List.getElem?_nil] at hi; cases hi⟩
      | cons vcpu vcpus =>
          have hid := restoreVcpuState_id kvm vcpu state
          rcases hv : restoreVcpuState kvm vcpu state with ⟨vcpu₁, e | u⟩
          · simp only [restoreVcpus, hv] at h
            cases (Prod.mk.inj h).2
          simp only [restoreVcpus, hv] at h
          rcases hrest : restoreVcpus kvm states vcpus with ⟨vcpus₁, r⟩
          rw [hrest] at h
          obtain ⟨rfl, rfl⟩ := Prod.mk.inj h
          obtain ⟨hlen, hres⟩ := ih hrest
          refine ⟨congrArg (· + 1) hlen, fun i w w' hw hw' => ?_⟩
          cases i with
          | succ i => exact hres i w w' hw hw'
          | zero =>
              obtain rfl := Option.some.inj hw
              obtain rfl := Option.some.inj hw'
              rw [hv] at hid
              refine ⟨hid, fun st hst => ?_, fun hnone => nomatch hnone⟩
              obtain rfl := Option.some.inj hst
              exact restoreVcpuState_ok hv

/-- **What restoring vCPUs writes**: when it succeeds, every vCPU with a state at its
position has the registers of that state as KVM keeps them. -/
theorem restoreVcpus_ok {states : List VcpuState} {vcpus vcpus' : List (Vcpu V)}
    (h : restoreVcpus kvm states vcpus = (vcpus', .ok ())) :
    vcpus'.length = vcpus.length ∧
      ∀ (i : ℕ) (state : VcpuState) (vcpu' : Vcpu V), states[i]? = some state →
        vcpus'[i]? = some vcpu' → Restored kvm (state.kept kvm) vcpu' := by
  obtain ⟨hlen, hspec⟩ := restoreVcpus_spec h
  refine ⟨hlen, fun i state vcpu' hst hi' => ?_⟩
  obtain ⟨hlt, -⟩ := List.getElem?_eq_some_iff.mp hi'
  have hi := List.getElem?_eq_getElem (hlen ▸ hlt : i < vcpus.length)
  exact (hspec i _ vcpu' hi hi').2.1 state hst

/-- States that were saved are restored. -/
theorem restoreVcpus_saved {states : List VcpuState}
    (h : ∀ state ∈ states, ∃ vcpu : Vcpu V, Restored kvm state vcpu)
    (vcpus : List (Vcpu V)) : ∃ vcpus', restoreVcpus kvm states vcpus = (vcpus', .ok ()) := by
  induction states generalizing vcpus with
  | nil => exact ⟨vcpus, rfl⟩
  | cons state states ih =>
      cases vcpus with
      | nil => exact ⟨[], rfl⟩
      | cons vcpu vcpus =>
          obtain ⟨w, hw⟩ := h state List.mem_cons_self
          obtain ⟨vcpu', hv⟩ := restoreVcpuState_saved hw vcpu
          obtain ⟨vcpus', hrest⟩ := ih (fun st hst => h st (List.mem_cons_of_mem _ hst)) vcpus
          exact ⟨vcpu' :: vcpus', by simp only [restoreVcpus, hv, hrest]⟩

/-! ### Saving and restoring -/

/-- The registers of the vCPU can be read. -/
def Readable (kvm : KvmVcpu V) (vcpu : Vcpu V) : Prop :=
  ∃ state, Restored kvm state vcpu

theorem saveVcpuState_readable {vcpu : Vcpu V} (h : Readable kvm vcpu) :
    ∃ state, saveVcpuState kvm vcpu = .ok state := by
  obtain ⟨state, hr, hs, hf⟩ := h
  exact ⟨_, by rw [saveVcpuState, hr, hs, hf]⟩

/-- A snapshot of readable vCPUs is taken. -/
theorem createSnapshot_readable (vm : VmMemory) (kvm : KvmVcpu V) (m : GuestMemory)
    {vcpus : List (Vcpu V)}
    (hread : ∀ vcpu ∈ vcpus, Readable kvm vcpu) :
    ∃ s, createSnapshot vm kvm m vcpus = .ok s := by
  obtain ⟨states, hstates⟩ :=
    mapM_ok_of_forall fun v hv => saveVcpuState_readable (hread v hv)
  exact ⟨_, by rw [createSnapshot, saveMemory_eq, hstates]⟩

/-- What a snapshot that was taken holds. -/
theorem createSnapshot_ok {m : GuestMemory} {vcpus : List (Vcpu V)} {s : VmState}
    (h : createSnapshot vm kvm m vcpus = .ok s) :
    saveMemory vm m = .ok s.memoryRegions ∧
      vcpus.mapM (saveVcpuState kvm) = .ok s.vcpuStates := by
  unfold createSnapshot at h
  cases hm : saveMemory vm m with
  | error e => simp only [hm] at h; cases h
  | ok regions =>
      cases hv : vcpus.mapM (saveVcpuState kvm) with
      | error e => simp only [hm, hv] at h; cases h
      | ok states =>
          simp only [hm, hv] at h
          obtain rfl := Except.ok.inj h
          exact ⟨rfl, rfl⟩

/-- The blocks of a saved memory are slices of it. -/
theorem slices_of_saveMemory {m : GuestMemory} {regions : List MemoryRegion}
    (hsave : saveMemory vm m = .ok regions) :
    (regions.map fun r => (r.guestAddr.toNat, r.data)) =
      m.layout.regions.map fun r => (r.start, slice m.bytes r.start r.len) := by
  rw [saveMemory_eq] at hsave
  obtain rfl := Except.ok.inj hsave
  rw [List.map_map]
  exact List.map_congr_left fun r _ => Prod.ext (toNat_guestAddr_wholeRegion m r) rfl

/-- Writing a saved memory over other bytes gives back those that were saved, wherever the memory
is backed or the bytes have stayed. -/
theorem patches_saved {m : GuestMemory} {regions : List MemoryRegion}
    (hsave : saveMemory vm m = .ok regions) {f : ℕ → UInt8} {a : ℕ}
    (ha : f a = m.bytes a ∨ m.layout.Backed a) :
    patches f (regions.map fun r => (r.guestAddr.toNat, r.data)) a = m.bytes a := by
  rw [slices_of_saveMemory hsave]
  refine patches_slices ?_ (ha.imp_right ?_)
  · intro w hw
    obtain ⟨r, -, rfl⟩ := List.mem_map.mp hw
    rw [length_slice]
  · rintro ⟨r, hr, hlo, hhi⟩
    exact ⟨_, List.mem_map_of_mem hr, hlo, by rwa [length_slice]⟩

/-- A byte of a saved block is the one that was saved. -/
theorem lastWrite_saved {m : GuestMemory} {regions : List MemoryRegion}
    (hsave : saveMemory vm m = .ok regions) {a : ℕ} {b : UInt8}
    (hb : lastWrite (regions.map fun r => (r.guestAddr.toNat, r.data)) a = some b) :
    b = m.bytes a := by
  have hsaved := patches_saved hsave (f := m.bytes) (a := a) (.inl rfl)
  rwa [patches_apply, hb, Option.getD_some] at hsaved

/-- The saved memory can be restored into any memory of the same layout, and brings every
byte back. -/
theorem restoreMemory_saved {m m' : GuestMemory} {regions : List MemoryRegion}
    (hsave : saveMemory vm m = .ok regions) (hL : m'.layout = m.layout) :
    ∃ m'', restoreMemory vm m' regions = (m'', none) ∧ m''.layout = m.layout ∧
      ∀ a, m.layout.Backed a → m''.bytes a = m.bytes a := by
  have hbody : ∀ u, ∀ x ∈ regions, u.layout = m.layout →
      ∃ u', restoreRegion vm u x = .next u' ∧ u'.layout = m.layout := by
    intro u x hx hu
    rw [saveMemory_eq] at hsave
    obtain rfl := Except.ok.inj hsave
    obtain ⟨r, hr, rfl⟩ := List.mem_map.mp hx
    rw [← hu] at hr
    obtain ⟨u', hnext, hu'⟩ := restoreRegion_whole vm m hr
    exact ⟨u', hnext, hu'.trans hu⟩
  obtain ⟨m'', hloop, hL''⟩ := forList_ends hbody hL
  refine ⟨m'', hloop, hL'', fun a ha => ?_⟩
  rw [(restoreMemory_ok hloop).2]
  exact patches_saved hsave (.inr ha)

/-- A restore that succeeds has restored memory and then the vCPUs. -/
theorem restoreSnapshot_ok {m m' : GuestMemory} {vcpus vcpus' : List (Vcpu V)} {s : VmState}
    (h : restoreSnapshot vm kvm m vcpus s = ((m', vcpus'), .ok ())) :
    restoreMemory vm m s.memoryRegions = (m', none) ∧
      restoreVcpus kvm s.vcpuStates vcpus = (vcpus', .ok ()) := by
  rw [restoreSnapshot] at h
  rcases hmem : restoreMemory vm m s.memoryRegions with ⟨m₁, _ | e⟩
  · rw [hmem] at h
    obtain ⟨hmv, hr⟩ := Prod.mk.inj h
    obtain ⟨rfl, hv⟩ := Prod.mk.inj hmv
    exact ⟨rfl, Prod.ext hv hr⟩
  · rw [hmem] at h
    cases (Prod.mk.inj h).2

/-- A snapshot can be restored into any memory of the layout it was taken of, and into any
vCPUs. -/
theorem restoreSnapshot_created {m m' : GuestMemory} {vcpus : List (Vcpu V)} {s : VmState}
    (hs : createSnapshot vm kvm m vcpus = .ok s) (hL : m'.layout = m.layout)
    (vcpus' : List (Vcpu V)) :
    ∃ m'' vcpus'', restoreSnapshot vm kvm m' vcpus' s = ((m'', vcpus''), .ok ()) ∧
      m''.layout = m.layout ∧ ∀ a, m.layout.Backed a → m''.bytes a = m.bytes a := by
  obtain ⟨hsave, hstates⟩ := createSnapshot_ok hs
  obtain ⟨m'', hmem, hL'', hbytes⟩ := restoreMemory_saved hsave hL
  have hsaved : ∀ state ∈ s.vcpuStates, ∃ vcpu : Vcpu V, Restored kvm state vcpu := by
    intro state hstate
    obtain ⟨vcpu, -, hvcpu⟩ := mem_of_mapM_ok hstates hstate
    exact ⟨vcpu, saveVcpuState_ok hvcpu⟩
  obtain ⟨vcpus'', hv⟩ := restoreVcpus_saved hsaved vcpus'
  exact ⟨m'', vcpus'', by simp only [restoreSnapshot, hmem, hv], hL'', hbytes⟩

/-- **Restoring a snapshot brings the machine back**: taking a snapshot of a machine whose
registers can be read succeeds, and whatever happens to memory and registers afterwards,
restoring it succeeds and leaves every byte of memory and every vCPU's `regs`, `sregs`
and `fpu` as they were when it was taken. -/
theorem snapshot_restore (vm : VmMemory) (kvm : KvmVcpu V) (m : GuestMemory)
    {vcpus : List (Vcpu V)}
    (hread : ∀ vcpu ∈ vcpus, Readable kvm vcpu) :
    ∃ s, createSnapshot vm kvm m vcpus = .ok s ∧
      ∀ (m' : GuestMemory) (vcpus' : List (Vcpu V)), m'.layout = m.layout →
        vcpus'.length = vcpus.length →
        ∃ m'' vcpus'', restoreSnapshot vm kvm m' vcpus' s = ((m'', vcpus''), .ok ()) ∧
          m''.layout = m.layout ∧ (∀ a, m.layout.Backed a → m''.bytes a = m.bytes a) ∧
          vcpus''.length = vcpus.length ∧
          ∀ (i : ℕ) (vcpu vcpu'' : Vcpu V), vcpus[i]? = some vcpu → vcpus''[i]? = some vcpu'' →
            kvm.getRegs vcpu''.fd = kvm.getRegs vcpu.fd ∧
            kvm.getSregs vcpu''.fd = kvm.getSregs vcpu.fd ∧
            kvm.getFpu vcpu''.fd = kvm.getFpu vcpu.fd := by
  obtain ⟨s, hs⟩ := createSnapshot_readable vm kvm m hread
  obtain ⟨-, hstates⟩ := createSnapshot_ok hs
  refine ⟨s, hs, fun m' vcpus' hL hlen => ?_⟩
  obtain ⟨m'', vcpus'', hrestore, hL'', hbytes⟩ := restoreSnapshot_created hs hL vcpus'
  obtain ⟨hlen'', hres⟩ := restoreVcpus_ok (restoreSnapshot_ok hrestore).2
  refine ⟨m'', vcpus'', hrestore, hL'', hbytes, hlen''.trans hlen, fun i vcpu vcpu'' hi hi'' => ?_⟩
  obtain ⟨state, hst, hsv⟩ := getElem?_of_mapM_ok hstates hi
  have hres'' := hres i state vcpu'' hst hi''
  rw [(saveVcpuState_ok hsv).kept_eq] at hres''
  obtain ⟨hr, hs, hf⟩ := saveVcpuState_ok hsv
  obtain ⟨hr', hs', hf'⟩ := hres''
  exact ⟨hr'.trans hr.symm, hs'.trans hs.symm, hf'.trans hf.symm⟩

/-- A vCPU stopped at this address, in protected mode. -/
def PlainVcpu.stoppedAt (rip : UInt64) : PlainVcpu where
  regs := bootRegs rip 0x7000 default
  sregs := bootSregs .reset
  fpu := (bootFpu default).kept

/-- A page of memory and two vCPUs come back, although the vCPUs have gone on and the page has been
overwritten since. -/
theorem snapshot_restore_page :
    ∃ s, createSnapshot VmMemory.mmap PlainVcpu.kvm (GuestMemory.page [7])
        [⟨.stoppedAt 0x1000, 0⟩, ⟨.stoppedAt 0x2000, 1⟩] = .ok s ∧
      ∃ m'' first second, restoreSnapshot VmMemory.mmap PlainVcpu.kvm (GuestMemory.page [])
          [⟨.stoppedAt 0x1004, 0⟩, ⟨.stoppedAt 0x2008, 1⟩] s = ((m'', [first, second]), .ok ()) ∧
        m''.bytes 0 = 7 ∧
        PlainVcpu.kvm.getRegs first.fd = .ok (bootRegs 0x1000 0x7000 default) ∧
        PlainVcpu.kvm.getRegs second.fd = .ok (bootRegs 0x2000 0x7000 default) := by
  have hread : ∀ vcpu ∈ ([⟨.stoppedAt 0x1000, 0⟩, ⟨.stoppedAt 0x2000, 1⟩] : List (Vcpu PlainVcpu)),
      Readable PlainVcpu.kvm vcpu :=
    fun vcpu _ => ⟨⟨0, vcpu.fd.regs.kept, vcpu.fd.sregs, vcpu.fd.fpu.kept, []⟩, rfl, rfl, rfl⟩
  obtain ⟨s, hs, hrestore⟩ :=
    snapshot_restore VmMemory.mmap PlainVcpu.kvm (GuestMemory.page [7]) hread
  obtain ⟨m'', vcpus'', hr, -, hbytes, hlen, hregs⟩ := hrestore (GuestMemory.page [])
    [⟨.stoppedAt 0x1004, 0⟩, ⟨.stoppedAt 0x2008, 1⟩] rfl rfl
  obtain ⟨first, second, rfl⟩ := List.length_eq_two.mp hlen
  exact ⟨s, hs, m'', first, second, hr, (hbytes 0 (by decide)).trans rfl,
    (hregs 0 _ _ rfl rfl).1, (hregs 1 _ _ rfl rfl).1⟩

end MoVm
