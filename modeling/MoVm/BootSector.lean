import MoVm.BootState
import MoVm.Lib.ModeSwitch

/-!
# From the Boot Sector to the Kernel

The boot sector that comes with the hypervisor, `bootloader.asm`, run on the memory that `main` has
prepared. It leaves real mode, shows a `Y` before and a `P` after that, and jumps to the address
`0x100000`, where kernels are usually linked to.

Which vCPUs run it is up to KVM: `VirtualMachine::new` has the interrupt controllers made before the
vCPUs, and KVM then starts the first vCPU only (`MpState.created`). Those that do run share the
memory and take turns in any order. The only thing that they write are the marks that the processor
makes in the two descriptors of the sector, so each of them runs as if it were alone
(`Lib.Interleaving`).

## Main results

* `boot_sector_handoff`: whatever the order, no vCPU that runs gets stuck, and each one comes to the
  kernel after 27 instructions, with all that the loader has put there still in place. It comes with
  the boot parameters in `ebx`; but not with the magic number in `eax` that the sector loads there,
  since the `P` is loaded into the lowest byte of it.
-/

open Lib ModeSwitch

namespace MoVm

variable {V Q C F S W X Y : Type} {vmm : VmMemory} {env : DeviceEnv Q C F S W} {kvm : KvmVcpu V}
  {files : SnapshotFiles X} {b : Bincode Y} {inv : Invocation V F S} {fs : X}

/-! ### The sector -/

/-- `start` in `bootloader.asm`, assembled for 16 bits at `0x7C00`. -/
def startBytes : List UInt8 :=
  [0x31, 0xC0,                         -- xor ax, ax
   0x8E, 0xD8,                         -- mov ds, ax
   0x8E, 0xD0,                         -- mov ss, ax
   0xBC, 0x00, 0x7C,                   -- mov sp, 0x7C00
   0xBA, 0xF8, 0x03,                   -- mov dx, 0x3F8
   0xB0, 0x59,                         -- mov al, 'Y'
   0xEE,                               -- out dx, al
   0xFA,                               -- cli
   0x0F, 0x01, 0x16, 0x53, 0x7C,       -- lgdt [gdt_descriptor]
   0x0F, 0x20, 0xC0,                   -- mov eax, cr0
   0x66, 0x83, 0xC8, 0x01,             -- or eax, 0x1
   0x0F, 0x22, 0xC0,                   -- mov cr0, eax
   0xEA, 0x24, 0x7C, 0x08, 0x00]       -- jmp 0x8:init_pm

/-- `init_pm`, assembled for 32 bits, and `hang`. -/
def initPmBytes : List UInt8 :=
  [0x66, 0xB8, 0x10, 0x00,             -- mov ax, 0x10
   0x8E, 0xD8,                         -- mov ds, ax
   0x8E, 0xC0,                         -- mov es, ax
   0x8E, 0xE0,                         -- mov fs, ax
   0x8E, 0xE8,                         -- mov gs, ax
   0x8E, 0xD0,                         -- mov ss, ax
   0xBC, 0x00, 0x7C, 0x00, 0x00,       -- mov esp, 0x7C00
   0xB8, 0x02, 0xB0, 0xAD, 0x2B,       -- mov eax, 0x2BADB002
   0xBB, 0x00, 0x70, 0x00, 0x00,       -- mov ebx, 0x7000
   0xB9, 0x00, 0x00, 0x10, 0x00,       -- mov ecx, 0x100000
   0xBA, 0xF8, 0x03, 0x00, 0x00,       -- mov edx, 0x3f8
   0xB0, 0x50,                         -- mov al, 'P'
   0xEE,                               -- out dx, al
   0xFF, 0xE1,                         -- jmp ecx
   0xF4,                               -- hlt
   0xEB, 0xFD]                         -- jmp hang

/-- `gdt_descriptor` and the three entries of the table. -/
def gdtBytes : List UInt8 :=
  [0x17, 0x00, 0x59, 0x7C, 0x00, 0x00,
   0x00, 0x00, 0x00, 0x00, 0x00, 0x00, 0x00, 0x00,
   0xFF, 0xFF, 0x00, 0x00, 0x00, 0x9A, 0xCF, 0x00,
   0xFF, 0xFF, 0x00, 0x00, 0x00, 0x92, 0xCF, 0x00]

/-- What `bootloader.asm` is assembled to, which is `bootloader.bin`. -/
def bootSector : List UInt8 :=
  startBytes ++ initPmBytes ++ gdtBytes ++ List.replicate 397 0 ++ [0x55, 0xAA]

theorem length_bootSector : bootSector.length = 512 := by decide +kernel

/-- The instructions of `start`, with their lengths. -/
def startCode : List (Instr × ℕ) :=
  [(.xor16 .eax .eax, 2), (.movSeg .ds .eax, 2), (.movSeg .ss .eax, 2), (.movImm16 .esp 0x7C00, 3),
   (.movImm16 .edx 0x3F8, 3), (.movAl 0x59, 2), (.outDxAl, 1), (.cli, 1), (.lgdt 0x7C53, 5),
   (.movFromCr0 .eax, 3), (.or32 .eax 1, 4), (.movToCr0 .eax, 3), (.jmpFar 0x7C24 8, 5)]

/-- The instructions of `init_pm`. -/
def initPmCode : List (Instr × ℕ) :=
  [(.movImm16 .eax 0x10, 4), (.movSeg .ds .eax, 2), (.movSeg .es .eax, 2), (.movSeg .fs .eax, 2),
   (.movSeg .gs .eax, 2), (.movSeg .ss .eax, 2), (.movImm32 .esp 0x7C00, 5),
   (.movImm32 .eax 0x2BADB002, 5), (.movImm32 .ebx 0x7000, 5), (.movImm32 .ecx 0x100000, 5),
   (.movImm32 .edx 0x3F8, 5), (.movAl 0x50, 2), (.outDxAl, 1), (.jmpReg .ecx, 2)]

/-- `gdt_code`. -/
def gdtCode : SegDesc where
  base := 0
  limit := 0xFFFFFFFF
  big := true
  code := true
  writable := true
  dpl := 0
  present := true

/-- `gdt_data`. -/
def gdtData : SegDesc :=
  { gdtCode with code := false }

/-- Where `gdt_descriptor` is. -/
def gdtDescriptorAddr : ℕ := bootAddr + 0x53

/-- Where `gdt_start` is. -/
def gdtStart : ℕ := bootAddr + 0x59

/-- What the sector tells a processor: its code, its table, and the two descriptors in it. -/
def sectorView : View where
  fetch big a :=
    if bootAddr ≤ a ∧ a + maxLength ≤ gdtStart then
      decode big ((bootSector.drop (a - bootAddr)).take maxLength)
    else none
  table a := if a = gdtDescriptorAddr then some (0x17, gdtStart) else none
  entry a :=
    if a = gdtStart + 8 then some gdtCode
    else if a = gdtStart + 16 then some gdtData
    else none

/-! ### One processor -/

/-- A segment of real mode. -/
def realSeg : SegReg where
  selector := 0
  base := 0
  limit := 0xFFFF
  big := false

/-- At the first instruction of the sector. -/
def atStart (reg : Reg → Gpr) : Cpu where
  reg := reg
  seg _ := realSeg
  eip := bootAddr
  cr0 := 0x10
  gdtBase := 0
  gdtLimit := 0xFFFF
  interrupts := false

/-- At `init_pm`. -/
def atInitPm (reg : Reg → Gpr) : Cpu where
  reg := reg
  seg := Function.update (fun _ => realSeg) .cs (gdtCode.toSegReg 8)
  eip := bootAddr + 0x24
  cr0 := 0x11
  gdtBase := gdtStart
  gdtLimit := 0x17
  interrupts := false

/-- Where `init_pm` jumps to. -/
def handoffAddr : ℕ := 0x100000

/-- Behind the last jump of the sector. -/
def atHandoff (reg : Reg → Gpr) : Cpu :=
  { atInitPm reg with
    seg := Function.update (fun _ => gdtData.toSegReg 0x10) .cs (gdtCode.toSegReg 8)
    eip := handoffAddr }

theorem listed_start : Listed sectorView realSeg bootAddr startCode := by decide +kernel

theorem listed_initPm : Listed sectorView (gdtCode.toSegReg 8) (bootAddr + 0x24) initPmCode := by
  decide +kernel

/-- `start` shows its letter and switches to protected mode. -/
theorem execList_start (reg : Reg → Gpr) :
    ∃ reg', Cpu.execList sectorView startCode (atStart reg) =
      some (atInitPm reg', [(0x3F8, 0x59)]) := by
  have hcr0 : Gpr.ofUInt32 0x10 = ⟨0, 0x10⟩ := by decide
  have hor : Gpr.ofUInt32 (Gpr.toUInt32 ⟨0, 0x10⟩ ||| signExtend 1) = ⟨0, 0x11⟩ := by decide
  have hback : Gpr.toUInt32 ⟨0, 0x11⟩ = 0x11 := by decide
  refine ⟨?_, ?_⟩
  rotate_left
  · simp [startCode, atStart, atInitPm, Cpu.execList, Cpu.exec, Cpu.setReg, Cpu.setSeg, Cpu.loadSeg,
      Cpu.isProtected, Cpu.lgdt, Cpu.setCr0, Cpu.jmpFar, Cpu.select, Cpu.entryAddr,
      SegDesc.fitsJump, SegDesc.toSegReg, sectorView, gdtDescriptorAddr, gdtStart, bootAddr,
      realSeg, gdtCode, hcr0, hor, hback]
    rfl

/-- What `init_pm` leaves in the registers. Its letter is loaded over the low byte of `eax`. -/
def handoffRegs (reg : Reg → Gpr) : Reg → Gpr
  | .eax => .ofUInt32 0x2BADB050
  | .ebx => .ofUInt32 0x7000
  | .ecx => .ofUInt32 0x100000
  | .edx => .ofUInt32 0x3F8
  | .esp => .ofUInt32 0x7C00
  | r => reg r

/-- `init_pm` loads the flat segments, shows its letter and jumps. -/
theorem execList_initPm (reg : Reg → Gpr) :
    Cpu.execList sectorView initPmCode (atInitPm reg) =
      some (atHandoff (handoffRegs reg), [(0x3F8, 0x50)]) := by
  have hmagic : Gpr.ofUInt32 0x2BADB002 = ⟨0x2BAD, 0xB002⟩ := by decide
  have hal : (0xB002 : UInt16) &&& 0xFF00 ||| 0x50 = 0xB050 := by decide
  have hshown : Gpr.ofUInt32 0x2BADB050 = ⟨0x2BAD, 0xB050⟩ := by decide
  have hport : Gpr.ofUInt32 0x3F8 = ⟨0, 0x3F8⟩ := by decide
  have hentry : (Gpr.ofUInt32 0x100000).toUInt32 = 0x100000 := by decide
  have hsegs : ∀ x y z : SegReg, Function.update (Function.update (Function.update (Function.update
      (Function.update (Function.update (fun _ => x) Seg.cs y) .ds z) .es z) .fs z) .gs z) .ss z =
        Function.update (fun _ => z) .cs y := by
    intro x y z
    funext s
    cases s <;> rfl
  simp [initPmCode, atInitPm, atHandoff, Cpu.execList, Cpu.exec, Cpu.setReg, Cpu.setSeg,
    Cpu.loadSeg, Cpu.isProtected, Cpu.jmp, Cpu.select, Cpu.entryAddr, SegDesc.fitsData,
    SegDesc.toSegReg, sectorView, gdtStart, bootAddr, handoffAddr, realSeg, gdtCode, gdtData,
    hmagic, hal, hport, hentry, hsegs]
  refine ⟨?_, by decide⟩
  funext r
  cases r <;> simp [handoffRegs, hshown, hport]

/-- A processor that has come to the kernel: in protected mode without paging, with flat segments of
32 bits and interrupts off. -/
structure AtHandoff (c : Cpu) : Prop where
  addr : c.codeAddr = handoffAddr
  cr0 : c.cr0 = 0x11
  flat : ∀ s, (c.seg s).base = 0 ∧ (c.seg s).limit = 0xFFFFFFFF ∧ (c.seg s).big = true
  masked : c.interrupts = false
  stack : c.reg .esp = .ofUInt32 0x7C00
  params : c.reg .ebx = .ofUInt32 (UInt32.ofNat bootParamsAddr)
  magic : c.reg .eax = .ofUInt32 0x2BADB050

/-- What a processor shows on the way. -/
def sectorOutput : Ports := [(0x3F8, 0x59), (0x3F8, 0x50)]

/-- The number of instructions on the way. -/
def sectorSteps : ℕ := 27

/-- **One processor, by itself, comes to the kernel.** -/
theorem soloRun_sector (reg : Reg → Gpr) :
    ∃ c, soloRun (Cpu.solo sectorView) sectorSteps (atStart reg) = some (c, sectorOutput) ∧
      AtHandoff c := by
  obtain ⟨reg₁, hstart⟩ := execList_start reg
  have hrun := soloRun_add (Cpu.soloRun_listed listed_start hstart)
    (Cpu.soloRun_listed (c := atInitPm reg₁) listed_initPm (execList_initPm reg₁))
  refine ⟨_, hrun, ⟨Nat.zero_add _, rfl, fun s => ?_, rfl, rfl, rfl, rfl⟩⟩
  cases s <;> exact ⟨rfl, rfl, rfl⟩

/-- As long as the sector tells a processor what to do, it is in the sector. -/
theorem codeAddr_of_solo {c : Cpu} (h : (c.solo sectorView).isSome) :
    c.codeAddr ≠ handoffAddr := by
  intro haddr
  have hfetch : sectorView.fetch (c.seg .cs).big c.codeAddr = none := by
    have hout : ¬(bootAddr ≤ handoffAddr ∧ handoffAddr + maxLength ≤ gdtStart) := by decide
    rw [haddr]
    simp only [sectorView, if_neg hout]
  rw [Cpu.solo, Cpu.next, hfetch] at h
  cases h

/-! ### The memory that the processors share -/

/-- The memory with the sector in it, up to marks in the two descriptors. -/
structure SectorMemory (f g : ℕ → UInt8) : Prop where
  loaded : slice f bootAddr bootSector.length = bootSector
  frame : ∀ x, x ≠ gdtStart + 8 + accessOffset → x ≠ gdtStart + 16 + accessOffset → g x = f x
  marks : ∀ x, g x = f x ∨ g x = f x ||| 1

theorem SectorMemory.refl {f : ℕ → UInt8} (h : slice f bootAddr bootSector.length = bootSector) :
    SectorMemory f f :=
  ⟨h, fun _ _ _ => rfl, fun _ => .inl rfl⟩

/-- A part of the sector that has no marks in it. -/
theorem SectorMemory.slice_eq {f g : ℕ → UInt8} (h : SectorMemory f g) {o n : ℕ}
    (hn : o + n ≤ 0x66 ∨ 0x67 ≤ o ∧ o + n ≤ 0x6E ∨ 0x6F ≤ o ∧ o + n ≤ 512) :
    slice g (bootAddr + o) n = (bootSector.drop o).take n := by
  have hcode : gdtStart + 8 + accessOffset = bootAddr + 0x66 := rfl
  have hdata : gdtStart + 16 + accessOffset = bootAddr + 0x6E := rfl
  have hlen := length_bootSector
  rw [← h.loaded, take_drop_slice (by omega)]
  exact slice_congr fun i hi => h.frame _ (by omega) (by omega)

/-- The descriptors are the same with and without marks. -/
theorem SectorMemory.entry_eq {f g : ℕ → UInt8} (h : SectorMemory f g) {o : ℕ} {d : SegDesc}
    (ho : o = 0x61 ∨ o = 0x69)
    (hd : ∀ access ∈ [bootSector.getD (o + 5) 0, bootSector.getD (o + 5) 0 ||| 1],
      SegDesc.decode ((bootSector.drop o).take 5 ++ access :: (bootSector.drop (o + 6)).take 2) =
        some d) :
    SegDesc.decode (slice g (bootAddr + o) 8) = some d := by
  have hlen := length_bootSector
  have hslice : slice g (bootAddr + o) 8 = (bootSector.drop o).take 5 ++
      g (bootAddr + (o + 5)) :: (bootSector.drop (o + 6)).take 2 := by
    have hfront := h.slice_eq (o := o) (n := 5) (by omega)
    have hback := h.slice_eq (o := o + 6) (n := 2) (by omega)
    rw [← hfront, ← hback]
    rfl
  have hbyte : f (bootAddr + (o + 5)) = bootSector.getD (o + 5) 0 := by
    have hget := congrArg (fun l => l.getD (o + 5) 0) h.loaded
    rw [List.getD_eq_getElem?_getD, getElem?_slice f (by omega)] at hget
    exact hget
  rw [hslice]
  refine hd _ ?_
  rw [← hbyte]
  rcases h.marks (bootAddr + (o + 5)) with hg | hg
  · exact List.mem_cons.mpr (.inl hg)
  · exact List.mem_cons.mpr (.inr (List.mem_singleton.mpr hg))

/-- **What the sector tells a processor is in every such memory.** -/
theorem SectorMemory.view {f g : ℕ → UInt8} (h : SectorMemory f g) :
    sectorView.Le (View.ofMem g) where
  fetch {big a x} hx := by
    obtain ⟨⟨hlow, hhigh⟩, hdecode⟩ := Option.ite_none_right_eq_some.mp hx
    have hstart : gdtStart = bootAddr + 0x59 := rfl
    have hmax : maxLength = 6 := rfl
    obtain ⟨o, rfl⟩ := Nat.exists_eq_add_of_le hlow
    rw [Nat.add_sub_cancel_left] at hdecode
    show decode big (slice g (bootAddr + o) maxLength) = some x
    rw [h.slice_eq (by omega)]
    exact hdecode
  table {a x} hx := by
    obtain ⟨rfl, hx⟩ := Option.ite_none_right_eq_some.mp hx
    show some (leNat (slice g (bootAddr + 0x53) 2), leNat (slice g (bootAddr + 0x55) 3)) = some x
    rw [h.slice_eq (by omega), h.slice_eq (by omega), ← hx]
    decide +kernel
  entry {a x} hx := by
    simp only [sectorView] at hx
    split_ifs at hx with hcode hdata
    · subst hcode
      obtain rfl := Option.some.inj hx
      exact h.entry_eq (.inl rfl) (by decide +kernel)
    · subst hdata
      obtain rfl := Option.some.inj hx
      exact h.entry_eq (.inr rfl) (by decide +kernel)

/-- Marks on the two descriptors keep it so. -/
theorem SectorMemory.mark {f g : ℕ → UInt8} (h : SectorMemory f g) {mk : Option ℕ}
    (hmk : ∀ x, mk = some x →
      x = gdtStart + 8 + accessOffset ∨ x = gdtStart + 16 + accessOffset) :
    SectorMemory f (mark g mk) := by
  cases mk with
  | none => exact h
  | some a =>
      refine ⟨h.loaded, fun x hcode hdata => ?_, fun x => ?_⟩
      · have hne : x ≠ a := by
          rintro rfl
          rcases hmk x rfl with hx | hx
          · exact hcode hx
          · exact hdata hx
        exact (Function.update_of_ne hne _ _).trans (h.frame x hcode hdata)
      · by_cases hx : x = a
        · subst hx
          refine .inr ((Function.update_self _ _ _).trans ?_)
          rcases h.marks x with hg | hg
          · rw [hg]
          · rw [hg, UInt8.or_assoc, UInt8.or_self]
        · rw [ModeSwitch.mark, Function.update_of_ne hx]
          exact h.marks x

/-- A step of a processor in the sector is the one that the sector tells it to take. -/
theorem SectorMemory.step {f g : ℕ → UInt8} (h : SectorMemory f g) {c c' : Cpu} {outs : Ports}
    (hsolo : c.solo sectorView = some (c', outs)) :
    ∃ g', c.step g = some (c', g', outs) ∧ SectorMemory f g' := by
  obtain ⟨⟨c₁, outs₁, mk⟩, hnext, hx⟩ := Option.map_eq_some_iff.mp hsolo
  obtain ⟨rfl, rfl⟩ := Prod.mk.inj hx
  refine ⟨ModeSwitch.mark g mk, ?_, h.mark ?_⟩
  · rw [Cpu.step, Cpu.next_mono h.view hnext]
    rfl
  · rintro x rfl
    obtain ⟨a, d, hentry, rfl⟩ := Cpu.next_marks hnext
    simp only [sectorView] at hentry
    split_ifs at hentry with hcode hdata
    · exact .inl (congrArg (· + accessOffset) hcode)
    · exact .inr (congrArg (· + accessOffset) hdata)

/-- Marks in the sector are nothing to the kernel. -/
theorem KernelMemory.of_sector {m : GuestMemory} {g : ℕ → UInt8} {buffer : List UInt8} {elf : Elf}
    (h : KernelMemory m buffer elf (bootAddr + bootSector.length)) (hg : SectorMemory m.bytes g) :
    KernelMemory { m with bytes := g } buffer elf (bootAddr + bootSector.length) := by
  have hlen := length_bootSector
  have haddr : bootAddr = 0x7c00 := rfl
  have hcode : gdtStart + 8 + accessOffset = bootAddr + 0x66 := rfl
  have hdata : gdtStart + 16 + accessOffset = bootAddr + 0x6E := rfl
  have hkept : KernelMemory { m with bytes := g } buffer elf
      (max (bootAddr + bootSector.length) (bootAddr + bootSector.length)) :=
    h.congr rfl (by omega) (fun x _ hx => hg.frame x (by omega) (by omega))
      (fun x hx => hg.frame x (by omega) (by omega))
  rwa [Nat.max_self] at hkept

/-! ### All processors -/

/-- In the sector, and able to go on. -/
def Underway (c : Cpu) (g : ℕ → UInt8) : Prop :=
  c.codeAddr ≠ handoffAddr ∧ (c.step g).isSome

/-- Where one processor is after some of the steps of all of them. -/
def SectorProgress (steps : ℕ) (outs : Ports) (c : Cpu) (g : ℕ → UInt8) : Prop :=
  (steps < sectorSteps ∧ outs <+: sectorOutput ∧ Underway c g) ∨
    (steps = sectorSteps ∧ outs = sectorOutput ∧ AtHandoff c)

/-- **Any number of processors come to the kernel**, in whatever order they take their steps. -/
theorem sector_interleaved {n : ℕ} {cpus : Fin n → Cpu} {f : ℕ → UInt8}
    {calls : List (((Fin n → Cpu) × (ℕ → UInt8)) × Fin n × Ports)}
    {s' : (Fin n → Cpu) × (ℕ → UInt8)} (hloaded : slice f bootAddr bootSector.length = bootSector)
    (hcpus : ∀ i, ∃ reg, cpus i = atStart reg) {live : Fin n → Cpu → Prop}
    (hbefore : ∀ i c, live i c → c.codeAddr ≠ handoffAddr)
    (htrace : Trace (Interleaved Cpu.step live) (cpus, f) calls s') :
    SectorMemory f s'.2 ∧
      ∀ i, SectorProgress (stepsOf i calls) (outputsOf i calls) (s'.1 i) s'.2 := by
  have hsolo : ∀ i, ∃ e, soloRun (Cpu.solo sectorView) sectorSteps (cpus i) =
      some (e, sectorOutput) ∧ AtHandoff e ∧ Cpu.solo sectorView e = none := by
    intro i
    obtain ⟨reg, hreg⟩ := hcpus i
    obtain ⟨e, hrun, hend⟩ := soloRun_sector reg
    refine ⟨e, hreg ▸ hrun, hend, ?_⟩
    rw [← Option.not_isSome_iff_eq_none]
    exact fun h => codeAddr_of_solo h hend.addr
  have hlive : ∀ i k c outs, soloRun (Cpu.solo sectorView) k (cpus i) = some (c, outs) →
      live i c → (c.solo sectorView).isSome := by
    intro i k c outs hrun hl
    obtain ⟨e, hall, hend, hstop⟩ := hsolo i
    rcases (soloRun_to_end hall hstop hrun).2 with ⟨-, rfl, -⟩ | ⟨-, hsome⟩
    · exact absurd hend.addr (hbefore i _ hl)
    · exact hsome
  -- each processor runs as it would by itself
  obtain ⟨hsector, hruns⟩ := htrace.solo (fun c m c' outs hm h => hm.step h) hlive
    (SectorMemory.refl hloaded)
  refine ⟨hsector, fun i => ?_⟩
  obtain ⟨e, hall, hend, hstop⟩ := hsolo i
  obtain ⟨hpre, ⟨hk, he, houts⟩ | ⟨hk, hsome⟩⟩ := soloRun_to_end hall hstop (hruns i)
  · exact .inr ⟨hk, houts, he ▸ hend⟩
  · obtain ⟨⟨c', outs⟩, hc⟩ := Option.isSome_iff_exists.mp hsome
    obtain ⟨g', hg', -⟩ := hsector.step hc
    exact .inl ⟨hk, hpre, codeAddr_of_solo hsome, by rw [hg']; rfl⟩

/-! ### The machine that `main` has prepared -/

/-- A segment register as KVM has it. -/
def segReg (seg : KvmSegment) : SegReg where
  selector := seg.selector
  base := seg.base.toNat
  limit := seg.limit.toNat
  big := seg.db = 1

/-- A vCPU as the processor of its guest. -/
def guestCpu (regs : KvmRegs) (sregs : KvmSregs) : Cpu where
  reg
    | .eax => .ofUInt32 regs.rax.toUInt32
    | .ecx => .ofUInt32 regs.rcx.toUInt32
    | .edx => .ofUInt32 regs.rdx.toUInt32
    | .ebx => .ofUInt32 regs.rbx.toUInt32
    | .esp => .ofUInt32 regs.rsp.toUInt32
    | .ebp => .ofUInt32 regs.rbp.toUInt32
    | .esi => .ofUInt32 regs.rsi.toUInt32
    | .edi => .ofUInt32 regs.rdi.toUInt32
  seg
    | .es => segReg sregs.es
    | .cs => segReg sregs.cs
    | .ss => segReg sregs.ss
    | .ds => segReg sregs.ds
    | .fs => segReg sregs.fs
    | .gs => segReg sregs.gs
  eip := regs.rip.toUInt32.toNat
  cr0 := sregs.cr0.toUInt32
  gdtBase := sregs.gdt.base.toNat
  gdtLimit := sregs.gdt.limit.toNat
  interrupts := regs.rflags &&& 0x200 ≠ 0

/-- `init_vcpu_for_real_mode` puts it at the first instruction of the sector. -/
theorem guestCpu_realMode (regs : KvmRegs) (sregs : KvmSregs) :
    guestCpu (realModeRegs regs) (realModeSregs sregs) =
      atStart (guestCpu (realModeRegs regs) (realModeSregs sregs)).reg := by
  have hseg : (guestCpu (realModeRegs regs) (realModeSregs sregs)).seg = fun _ => realSeg := by
    funext s
    cases s <;> rfl
  have hflags : (guestCpu (realModeRegs regs) (realModeSregs sregs)).interrupts = false :=
    decide_eq_false (by decide : ¬(2 : UInt64) &&& 0x200 ≠ 0)
  rw [Cpu.mk.injEq]
  exact ⟨rfl, hseg, rfl, rfl, rfl, rfl, hflags⟩

/-- What `main` has prepared for the sector. -/
theorem Invocation.Starts.sector {vm : VirtualMachine V Q F S} {path : String}
    (hstart : inv.Starts vmm env kvm files b fs vm) (hboot : inv.bootloader = some path)
    (hfile : inv.kernels.readFile path = .ok bootSector) :
    ∃ buffer elf, inv.kernels.readFile inv.args.kernel = .ok buffer ∧
      inv.kernels.parse buffer = .ok elf ∧
      KernelMemory vm.memory.memory buffer elf (bootAddr + bootSector.length) ∧
      slice vm.memory.memory.bytes bootAddr bootSector.length = bootSector ∧
      ∃ cpus : Fin vm.vcpus.length → Cpu,
        (∀ i, ∃ regs sregs, kvm.getRegs (vm.vcpus.get i).fd = .ok regs ∧
          kvm.getSregs (vm.vcpus.get i).fd = .ok sregs ∧ cpus i = guestCpu regs sregs) ∧
        ∀ i, ∃ reg, cpus i = atStart reg := by
  obtain ⟨vm₁, buffer, elf, hread, hparse, hmemory, -, ⟨hnone, -⟩ | ⟨path', hpath, hload⟩⟩ :=
    hstart.loaded
  · rw [hboot] at hnone
    cases hnone
  obtain rfl : path = path' := Option.some.inj (hboot.symm.trans hpath)
  obtain ⟨image, himage, hbytes, -, -⟩ := VirtualMachine.loadBootloader_ok hload
  obtain ⟨hL, -, -⟩ := VirtualMachine.loadBootloader_layout hload
  obtain rfl : bootSector = image := Except.ok.inj (hfile.symm.trans himage)
  have hkernel := hmemory.of_bootImage hbytes hL (by rw [length_bootSector]; decide)
  have hcpu : ∀ i : Fin vm.vcpus.length, ∃ c, (∃ regs sregs,
      kvm.getRegs (vm.vcpus.get i).fd = .ok regs ∧ kvm.getSregs (vm.vcpus.get i).fd = .ok sregs ∧
        c = guestCpu regs sregs) ∧ ∃ reg, c = atStart reg := by
    intro i
    obtain ⟨regs, sregs, hregs, hsregs⟩ :=
      VirtualMachine.loadBootloader_regs hload (List.get_mem vm.vcpus i)
    exact ⟨_, ⟨_, _, hregs, hsregs, rfl⟩, _, guestCpu_realMode regs sregs⟩
  choose cpus hcpus hatStart using hcpu
  exact ⟨buffer, elf, hread, hparse, hkernel, hbytes.loaded, cpus, hcpus, hatStart⟩

/-! ### The vCPUs that run -/

/-- The multiprocessing state of a vCPU, as far as it matters here. -/
inductive MpState
  | runnable
  /-- The vCPU waits in `KVM_RUN` for a start-up interrupt. -/
  | uninitialized
deriving DecidableEq

/-- The state in which KVM creates the vCPU with this number once the interrupt controllers have
been created. -/
def MpState.created (i : ℕ) : MpState :=
  if i = 0 then .runnable else .uninitialized

/-- A vCPU that executes instructions, and is not yet at the kernel. The sector sends no start-up
interrupt, so that the states stay as they are on the way. -/
def InSector {n : ℕ} (mp : Fin n → MpState) (i : Fin n) (c : Cpu) : Prop :=
  mp i = .runnable ∧ c.codeAddr ≠ handoffAddr

/-- Where a vCPU is after some of the steps of all of them: one that runs is on its way or at the
kernel, and the others are where they were. -/
def VcpuProgress (mp : MpState) (start : Cpu) (steps : ℕ) (outs : Ports) (c : Cpu) (g : ℕ → UInt8) :
    Prop :=
  match mp with
  | .runnable => SectorProgress steps outs c g
  | .uninitialized => steps = 0 ∧ outs = [] ∧ c = start

/-- **All vCPUs that run come to the kernel**, and the others do nothing. -/
theorem sector_vcpus {n : ℕ} {mp : Fin n → MpState} {cpus : Fin n → Cpu} {f : ℕ → UInt8}
    {calls : List (((Fin n → Cpu) × (ℕ → UInt8)) × Fin n × Ports)}
    {s' : (Fin n → Cpu) × (ℕ → UInt8)} (hloaded : slice f bootAddr bootSector.length = bootSector)
    (hcpus : ∀ i, ∃ reg, cpus i = atStart reg)
    (htrace : Trace (Interleaved Cpu.step (InSector mp)) (cpus, f) calls s') :
    SectorMemory f s'.2 ∧
      ∀ i, VcpuProgress (mp i) (cpus i) (stepsOf i calls) (outputsOf i calls) (s'.1 i) s'.2 := by
  obtain ⟨hsector, hprogress⟩ := sector_interleaved hloaded hcpus (fun _ _ hl => hl.2) htrace
  refine ⟨hsector, fun i => ?_⟩
  cases hmp : mp i with
  | runnable => exact hprogress i
  | uninitialized =>
      refine htrace.stopped fun c hl => ?_
      rw [hl.1] at hmp
      cases hmp

/-- **From the boot sector to the kernel.** With `bootloader.bin` as the boot image, all vCPUs begin
at its first instruction. In whatever order those that KVM lets run take their steps, none of them
ever faults or stops in the sector; after 27 instructions of its own, and with two letters shown,
each one is at `0x100000` in flat protected mode, whatever the entry point of the kernel is. All
that the loader has left behind the sector is then still in place. `eax` has lost the low byte of
the Multiboot magic number. -/
theorem boot_sector_handoff {vm : VirtualMachine V Q F S} {path : String}
    (hstart : inv.Starts vmm env kvm files b fs vm) (hboot : inv.bootloader = some path)
    (hfile : inv.kernels.readFile path = .ok bootSector) (mp : Fin vm.vcpus.length → MpState) :
    ∃ buffer elf, inv.kernels.readFile inv.args.kernel = .ok buffer ∧
      inv.kernels.parse buffer = .ok elf ∧
      ∃ cpus : Fin vm.vcpus.length → Cpu,
        (∀ i, ∃ regs sregs, kvm.getRegs (vm.vcpus.get i).fd = .ok regs ∧
          kvm.getSregs (vm.vcpus.get i).fd = .ok sregs ∧ cpus i = guestCpu regs sregs) ∧
        ∀ calls s', Trace (Interleaved Cpu.step (InSector mp)) (cpus, vm.memory.memory.bytes)
            calls s' →
          KernelMemory { vm.memory.memory with bytes := s'.2 } buffer elf (bootAddr + 512) ∧
          ∀ i, VcpuProgress (mp i) (cpus i) (stepsOf i calls) (outputsOf i calls) (s'.1 i)
            s'.2 := by
  obtain ⟨buffer, elf, hread, hparse, hkernel, hloaded, cpus, hcpus, hatStart⟩ :=
    hstart.sector hboot hfile
  refine ⟨buffer, elf, hread, hparse, cpus, hcpus, fun calls s' htrace => ?_⟩
  obtain ⟨hsector, hprogress⟩ := sector_vcpus hloaded hatStart htrace
  exact ⟨length_bootSector ▸ hkernel.of_sector hsector, hprogress⟩

/-- Two vCPUs on the plain host. The first one takes all of its steps, the second one none. -/
theorem boot_sector_handoff_plain :
    ∃ (vm : VirtualMachine PlainVcpu GatedQueue DiskFile Unit) (cpus : Fin vm.vcpus.length → Cpu),
      ∃ calls s', Trace (Interleaved Cpu.step (InSector fun i => .created i))
        (cpus, vm.memory.memory.bytes) calls s' ∧
        ∃ i j, AtHandoff (s'.1 i) ∧ stepsOf j calls = 0 ∧ s'.1 j = cpus j := by
  have hne : bootSector ≠ [] := List.ne_nil_of_length_pos (by rw [length_bootSector]; decide)
  obtain ⟨vm, hstart⟩ := Invocation.boot_starts hne (by rw [length_bootSector]; decide)
    fun _ => none
  have hlen : vm.vcpus.length = 2 := (hstart.spec GatedQueue.readiness).2.2
  obtain ⟨_, _, _, _, cpus, _, hall⟩ := boot_sector_handoff hstart rfl rfl fun i => .created i
  let i : Fin vm.vcpus.length := ⟨0, by omega⟩
  let j : Fin vm.vcpus.length := ⟨1, by omega⟩
  have hsteps : ∀ k ≤ sectorSteps, ∃ calls s',
      Trace (Interleaved Cpu.step (InSector fun i => .created i))
        (cpus, vm.memory.memory.bytes) calls s' ∧ stepsOf i calls = k := by
    intro k
    induction k with
    | zero => exact fun _ => ⟨[], _, .nil _, rfl⟩
    | succ k ih =>
        intro hk
        obtain ⟨calls, s', htrace, hcount⟩ := ih (by omega)
        have hprogress : SectorProgress _ _ _ _ := (hall calls s' htrace).2 i
        rcases hprogress with ⟨-, -, hne, hstep⟩ | ⟨hend, -⟩
        · obtain ⟨⟨c, m, outs⟩, hc⟩ := Option.isSome_iff_exists.mp hstep
          refine ⟨_, _, htrace.append (.cons ⟨⟨rfl, hne⟩, c, m, hc, rfl⟩ (.nil _)), ?_⟩
          rw [stepsOf_concat, if_pos rfl, hcount]
        · omega
  obtain ⟨calls, s', htrace, hcount⟩ := hsteps sectorSteps (Nat.le_refl _)
  have hother : stepsOf j calls = 0 ∧ outputsOf j calls = [] ∧ s'.1 j = cpus j :=
    (hall calls s' htrace).2 j
  have hprogress : SectorProgress _ _ _ _ := (hall calls s' htrace).2 i
  rcases hprogress with ⟨hlt, -⟩ | ⟨-, -, hend⟩
  · omega
  · exact ⟨vm, cpus, calls, s', htrace, i, j, hend, hother.1, hother.2.2⟩

end MoVm
