import MoVm.Startup

/-!
# The Bootloader

The model of `bootloader.rs`: a boot image is written to guest memory at `0x7c00`, together
with a minimal BIOS of two handlers and four entries of the interrupt vector table, and every
vCPU is put into real mode at the first byte of the image.

Like the kernel loader, the BIOS is a fixed list of writes (`biosWrites`) that stops at the
first failure. The table is read back as the processor reads it: an entry is an offset and
a segment of sixteen bits each (`ivtTarget`).

## Main results

* `loadBootloader_image`: the exact memory image after loading.
* `VirtualMachine.loadBootloader_ok`: every vCPU starts in real mode at the first byte of the
  image, with the table that was installed.
-/

open Lib

namespace MoVm

/-! ### `load_bootloader` -/

/-- `boot_addr`. -/
def bootAddr : ℕ := 0x7c00

/-- `bios_addr`. -/
def biosAddr : UInt32 := 0x1000

/-- Teletype output to `COM1`: `mov dx,0x3f8; out dx,al; iret`. -/
def int10Handler : List UInt8 := [0xBA, 0xF8, 0x03, 0xEE, 0xCF]

/-- Nothing but `iret`. -/
def dummyIret : List UInt8 := [0xCF]

/-- An entry of the interrupt vector table that points into segment zero. -/
def ivtEntry (addr : UInt32) : List UInt8 :=
  [(addr &&& 0xFF).toUInt8, ((addr >>> 8) &&& 0xFF).toUInt8, 0x00, 0x00]

/-- The interrupts that only return. -/
def dummyInterrupts : List ℕ := [0x13, 0x15, 0x16]

/-- The table entry of one of them. -/
def ivtDummy (i : ℕ) : BootWrite where
  addr := i * 4
  bytes := ivtEntry (biosAddr + 0x10)
  error := "Failed to write dummy IVT entry"

/-- All writes of `install_minimal_bios`, in order. -/
def biosWrites : List BootWrite :=
  [{ addr := biosAddr.toNat, bytes := int10Handler,
     error := "Failed to write INT 0x10 handler" },
   { addr := 0x40, bytes := ivtEntry biosAddr, error := "Failed to write IVT entry 0x10" },
   { addr := biosAddr.toNat + 0x10, bytes := dummyIret,
     error := "Failed to write dummy iret" }] ++
    dummyInterrupts.map ivtDummy

variable {V Q C F S X : Type} (vmm : VmMemory) (vq : VirtioQueue Q C) (kvm : KvmVcpu V)

/-- `BiosLoader::install_minimal_bios`. -/
def BiosLoader.installMinimalBios (m : GuestMemory) :
    GuestMemory × Except HypervisorError Unit :=
  match forList (bootWrite vmm) biosWrites m with
  | (m, some e) => (m, .error e)
  | (m, none) => (m, .ok ())

/-- `BiosLoader::load_bootloader`. An image of more than 512 bytes is only warned about. -/
def BiosLoader.loadBootloader (readFile : String → Except String (List UInt8))
    (m : GuestMemory) (bootPath : String) : GuestMemory × Except HypervisorError Unit :=
  match readFile bootPath with
  | .error e => (m, .error (.ioError e))
  | .ok buffer =>
      match vmm.writeSlice m bootAddr buffer with
      | (m, .error e) => (m, .error (.memoryError ("Failed to write bootloader: " ++ e)))
      | (m, .ok ()) => BiosLoader.installMinimalBios vmm m

/-! ### `init_vcpu_for_real_mode` -/

/-- The code segment of real mode, over what was there before. -/
def realModeCode (cs : KvmSegment) : KvmSegment :=
  { cs with
    selector := 0
    base := 0
    limit := 0xFFFF
    type := 11
    present := 1
    dpl := 0
    db := 0
    s := 1
    l := 0
    g := 0
    avl := 0 }

/-- The data segments are copies of the code segment with another type. -/
def realModeData (cs : KvmSegment) : KvmSegment :=
  { realModeCode cs with type := 3 }

/-- The segment and control registers of real mode. -/
def realModeSregs (sregs : KvmSregs) : KvmSregs :=
  { sregs with
    cs := realModeCode sregs.cs
    ds := realModeData sregs.cs
    es := realModeData sregs.cs
    fs := realModeData sregs.cs
    gs := realModeData sregs.cs
    ss := realModeData sregs.cs
    cr0 := 0x10
    cr3 := 0
    cr4 := 0
    efer := 0
    idt := { sregs.idt with base := 0, limit := 0x3FF }
    gdt := { sregs.gdt with base := 0, limit := 0xFFFF } }

/-- The segments are ordinary. -/
theorem ordinary_realMode (seg : KvmSegment) :
    (realModeCode seg).Ordinary ∧ (realModeData seg).Ordinary := by
  have haccessed : (11 : UInt8) &&& 0xF1 = 1 ∧ (3 : UInt8) &&& 0xF1 = 1 := by decide
  simp [KvmSegment.Ordinary, realModeCode, realModeData, haccessed]

/-- KVM keeps what `init_vcpu_for_real_mode` sets. -/
theorem rewrites_realModeSregs (sregs : KvmSregs) : sregs.Rewrites (realModeSregs sregs) where
  segments seg hseg := by
    obtain ⟨hcode, hdata⟩ := ordinary_realMode sregs.cs
    rcases List.mem_cons.mp hseg with rfl | hseg
    · exact ⟨hcode, rfl, rfl⟩
    · obtain rfl : seg = realModeData sregs.cs := List.eq_of_mem_replicate (n := 5) hseg
      exact ⟨hdata, rfl, rfl⟩
  task := .inl rfl
  others := rfl

/-- The general purpose registers: execution starts at the image, the stack grows down from
it. -/
def realModeRegs (regs : KvmRegs) : KvmRegs :=
  { regs with
    rflags := 0x2
    rip := 0x7c00
    rsp := 0x7c00
    rbp := 0 }

/-- KVM keeps them. -/
theorem realModeRegs_kept (regs : KvmRegs) : (realModeRegs regs).kept = realModeRegs regs := by
  simp only [KvmRegs.kept, realModeRegs, UInt64.or_self]

/-- `BiosLoader::init_vcpu_for_real_mode`. -/
def BiosLoader.initVcpuForRealMode (vcpu : Vcpu V) : Vcpu V × Except HypervisorError Unit :=
  match updateRegs kvm.getSregs kvm.setSregs realModeSregs vcpu.fd with
  | (fd, .error e) => ({ vcpu with fd }, .error e)
  | (fd, .ok ()) =>
      match updateRegs kvm.getRegs kvm.setRegs realModeRegs fd with
      | (fd, .error e) => ({ vcpu with fd }, .error e)
      | (fd, .ok ()) => ({ vcpu with fd }, .ok ())

/-- `VirtualMachine::load_bootloader`. -/
def VirtualMachine.loadBootloader (readFile : String → Except String (List UInt8))
    (vm : VirtualMachine V Q F S) (bootloaderPath : String) :
    VirtualMachine V Q F S × Except HypervisorError Unit :=
  match BiosLoader.loadBootloader vmm readFile vm.memory.memory bootloaderPath with
  | (m, .error e) => (vm.withMemory m, .error e)
  | (m, .ok ()) =>
      match eachVcpu (BiosLoader.initVcpuForRealMode kvm) vm.vcpus with
      | (vcpus, r) => ({ vm.withMemory m with vcpus }, r)

/-- `main` from the devices to `vm.run`, with its `--bootloader` option: the bootloader is
loaded over the kernel. -/
def startupBoot (host : MainHost F S X) (args : Args) (bootloader : Option String)
    (vm : VirtualMachine V Q F S) : VirtualMachine V Q F S × Option MainEnd :=
  match startup vmm vq kvm host args vm with
  | (vm, some e) => (vm, some e)
  | (vm, none) =>
      match bootloader with
      | none => (vm, none)
      | some path =>
          match vm.loadBootloader vmm kvm host.kernels.readFile path with
          | (vm, .error _) => (vm, some .exited)
          | (vm, .ok ()) => (vm, none)

/-! ### The interrupt vector table -/

/-- Where the processor continues on interrupt `n` in real mode: the entry is an offset
followed by a segment. -/
def ivtTarget (f : ℕ → UInt8) (n : ℕ) : ℕ :=
  leNat (slice f (4 * n + 2) 2) * 16 + leNat (slice f (4 * n) 2)

/-- The two bytes an address is split into are its two low bytes. -/
theorem leNat_ivtEntry (addr : UInt32) :
    leNat [(addr &&& 0xFF).toUInt8, ((addr >>> 8) &&& 0xFF).toUInt8] = addr.toNat % 0x10000 := by
  have hlow : ∀ n : ℕ, n &&& 255 = n % 256 := fun n => Nat.and_two_pow_sub_one_eq_mod n 8
  simp only [leNat, UInt32.toNat_toUInt8, UInt32.toNat_and, UInt32.toNat_shiftRight,
    UInt32.reduceToNat, hlow, Nat.shiftRight_eq_div_pow, Nat.reduceMod, Nat.reducePow]
  omega

/-- An entry leads to the address it was made from, if that lies in segment zero. -/
theorem ivtTarget_of_ivtEntry {f : ℕ → UInt8} {n : ℕ} {addr : UInt32}
    (hentry : slice f (4 * n) 4 = ivtEntry addr) (haddr : addr.toNat < 0x10000) :
    ivtTarget f n = addr.toNat := by
  have hsplit : slice f (4 * n) 2 ++ slice f (4 * n + 2) 2 =
      [(addr &&& 0xFF).toUInt8, ((addr >>> 8) &&& 0xFF).toUInt8] ++ [0, 0] :=
    (slice_add f (4 * n) 2 2).symm.trans hentry
  obtain ⟨hoffset, hsegment⟩ := List.append_inj hsplit (length_slice f (4 * n) 2)
  have hzero : leNat [0, 0] = 0 := by decide
  rw [ivtTarget, hoffset, hsegment, hzero, leNat_ivtEntry, Nat.mod_eq_of_lt haddr, Nat.zero_mul,
    Nat.zero_add]

/-! ### The memory image -/

/-- The blocks a bootloader of this content writes, in order. -/
def bootloaderBlocks (image : List UInt8) : List (ℕ × List UInt8) :=
  (bootAddr, image) :: biosWrites.map fun w => (w.addr, w.bytes)

/-- The BIOS lies below the image, whatever its length, and no two of the blocks meet. -/
theorem bootloaderBlocks_pairwise (image : List UInt8) : (bootloaderBlocks image).Pairwise
    fun v w => v.1 + v.2.length ≤ w.1 ∨ w.1 + w.2.length ≤ v.1 := by
  refine List.pairwise_cons.mpr ⟨fun w hw => Or.inr ?_, by decide⟩
  have hbelow : ∀ w ∈ biosWrites.map fun w => (w.addr, w.bytes),
      w.1 + w.2.length ≤ bootAddr := by decide
  exact hbelow w hw

variable {vmm vq kvm}

/-- A successful call has read its file and written these blocks. -/
theorem BiosLoader.loadBootloader_ok {readFile : String → Except String (List UInt8)}
    {m m' : GuestMemory} {bootPath : String}
    (h : BiosLoader.loadBootloader vmm readFile m bootPath = (m', .ok ())) :
    ∃ image, readFile bootPath = .ok image ∧ m'.layout = m.layout ∧
      m'.bytes = patches m.bytes (bootloaderBlocks image) := by
  rw [BiosLoader.loadBootloader] at h
  cases hread : readFile bootPath with
  | error e =>
      rw [hread] at h
      cases (Prod.mk.inj h).2
  | ok image =>
      simp only [hread] at h
      refine ⟨image, rfl, ?_⟩
      rcases hw : vmm.writeSlice m bootAddr image with ⟨m₁, e | u⟩
      · simp only [hw] at h
        cases (Prod.mk.inj h).2
      · simp only [hw, BiosLoader.installMinimalBios] at h
        rcases hbios : forList (bootWrite vmm) biosWrites m₁ with ⟨m₂, _ | e⟩
        · simp only [hbios] at h
          obtain rfl := (Prod.mk.inj h).1
          obtain ⟨hL₁, hb₁⟩ := vmm.writeSlice_eq_ok hw
          obtain ⟨hL₂, hb₂⟩ := bootWrites_ok hbios
          refine ⟨hL₂.trans hL₁, ?_⟩
          rw [hb₂, hb₁, bootloaderBlocks, patches_cons]
        · simp only [hbios] at h
          cases (Prod.mk.inj h).2

/-- Each of the blocks is in memory afterwards. -/
theorem slice_bootloaderBlocks (f : ℕ → UInt8) (image : List UInt8) {a : ℕ} {bs : List UInt8}
    (hmem : (a, bs) ∈ bootloaderBlocks image) :
    slice (patches f (bootloaderBlocks image)) a bs.length = bs :=
  slice_patches_of_pairwise (bootloaderBlocks_pairwise image) hmem

theorem mem_bootloaderBlocks (image : List UInt8) {w : ℕ × List UInt8}
    (hw : w ∈ biosWrites.map fun w => (w.addr, w.bytes)) : w ∈ bootloaderBlocks image :=
  List.mem_cons_of_mem _ hw

/-- An entry that was written leads to its address. -/
theorem ivtTarget_bootloaderBlocks (f : ℕ → UInt8) (image : List UInt8) {n : ℕ} {addr : UInt32}
    (haddr : addr.toNat < 0x10000)
    (hmem : (4 * n, ivtEntry addr) ∈ biosWrites.map fun w => (w.addr, w.bytes)) :
    ivtTarget (patches f (bootloaderBlocks image)) n = addr.toNat :=
  ivtTarget_of_ivtEntry (slice_bootloaderBlocks f image (mem_bootloaderBlocks image hmem)) haddr

/-- What a bootloader leaves in memory that was `f` before. -/
structure BootImage (f g : ℕ → UInt8) (image : List UInt8) : Prop where
  loaded : slice g 0x7c00 image.length = image
  /-- `INT 0x10` leads to the teletype handler. -/
  int10 : ivtTarget g 0x10 = 0x1000 ∧
    slice g (ivtTarget g 0x10) 5 = [0xBA, 0xF8, 0x03, 0xEE, 0xCF]
  /-- The other interrupts lead to an `iret`. -/
  dummy : ∀ n ∈ [0x13, 0x15, 0x16], ivtTarget g n = 0x1010 ∧ g (ivtTarget g n) = 0xCF
  /-- Nothing else has changed: not the image, one of the four entries or one of the two
  handlers. -/
  frame : ∀ x, ¬(0x7c00 ≤ x ∧ x < 0x7c00 + image.length) →
    (∀ n ∈ [0x10, 0x13, 0x15, 0x16], ¬(4 * n ≤ x ∧ x < 4 * n + 4)) →
    ¬(0x1000 ≤ x ∧ x < 0x1005) → x ≠ 0x1010 → g x = f x

/-- The writes of the BIOS stay in the four entries and the two handlers. -/
theorem biosWrites_inside {w : BootWrite} (hw : w ∈ biosWrites) {x : ℕ}
    (hx : w.addr ≤ x ∧ x < w.addr + w.bytes.length) :
    (∃ n ∈ [0x10, 0x13, 0x15, 0x16], 4 * n ≤ x ∧ x < 4 * n + 4) ∨
      (0x1000 ≤ x ∧ x < 0x1005) ∨ x = 0x1010 := by
  simp only [biosWrites, dummyInterrupts, List.map_cons, List.map_nil, List.cons_append,
    List.nil_append, List.mem_cons, List.not_mem_nil, or_false] at hw
  rcases hw with rfl | rfl | rfl | rfl | rfl | rfl
  · exact .inr (.inl hx)
  · exact .inl ⟨0x10, by decide, hx⟩
  · exact .inr (.inr (Nat.le_antisymm (Nat.le_of_lt_succ hx.2) hx.1))
  · exact .inl ⟨0x13, by decide, hx⟩
  · exact .inl ⟨0x15, by decide, hx⟩
  · exact .inl ⟨0x16, by decide, hx⟩

/-- The blocks of a bootloader make up such an image. -/
theorem bootImage_bootloaderBlocks (f : ℕ → UInt8) (image : List UInt8) :
    BootImage f (patches f (bootloaderBlocks image)) image := by
  have hint10 : ivtTarget (patches f (bootloaderBlocks image)) 0x10 = 0x1000 :=
    @ivtTarget_bootloaderBlocks f image 0x10 biosAddr (by decide) (by decide)
  have hdummy : ∀ n ∈ [0x13, 0x15, 0x16],
      ivtTarget (patches f (bootloaderBlocks image)) n = 0x1010 := by
    intro n hn
    have hentry : ∀ n ∈ [0x13, 0x15, 0x16], (4 * n, ivtEntry (biosAddr + 0x10)) ∈
        biosWrites.map fun w => (w.addr, w.bytes) := by decide
    exact ivtTarget_bootloaderBlocks f image (by decide) (hentry n hn)
  have hhandler : slice (patches f (bootloaderBlocks image)) 0x1000 5 = int10Handler :=
    @slice_bootloaderBlocks f image 0x1000 int10Handler (mem_bootloaderBlocks image (by decide))
  have hiret : slice (patches f (bootloaderBlocks image)) 0x1010 1 = dummyIret :=
    @slice_bootloaderBlocks f image 0x1010 dummyIret (mem_bootloaderBlocks image (by decide))
  refine ⟨slice_bootloaderBlocks f image List.mem_cons_self, ⟨hint10, ?_⟩,
    fun n hn => ⟨hdummy n hn, ?_⟩, ?_⟩
  · rw [hint10]
    exact hhandler
  · rw [hdummy n hn]
    exact (List.cons.inj hiret).1
  · intro x himage hivt hint10 hdummy
    refine patches_of_notMem fun w hw hx => ?_
    rcases List.mem_cons.mp hw with rfl | hw
    · exact himage hx
    · obtain ⟨v, hv, rfl⟩ := List.mem_map.mp hw
      rcases biosWrites_inside hv hx with ⟨n, hn, hentry⟩ | hhandler | hiret
      · exact hivt n hn hentry
      · exact hint10 hhandler
      · exact hdummy hiret

/-- **The exact memory image after loading a bootloader**, for an image of any length. -/
theorem loadBootloader_image {readFile : String → Except String (List UInt8)}
    {m m' : GuestMemory} {bootPath : String}
    (h : BiosLoader.loadBootloader vmm readFile m bootPath = (m', .ok ())) :
    ∃ image, readFile bootPath = .ok image ∧ m'.layout = m.layout ∧
      BootImage m.bytes m'.bytes image := by
  obtain ⟨image, hread, hL, hbytes⟩ := BiosLoader.loadBootloader_ok h
  refine ⟨image, hread, hL, ?_⟩
  rw [hbytes]
  exact bootImage_bootloaderBlocks m.bytes image

/-- An image that is not empty loads wherever it fits behind the BIOS. -/
theorem BiosLoader.loadBootloader_of_covers (vmm : VmMemory)
    {readFile : String → Except String (List UInt8)} {m : GuestMemory} {bootPath : String}
    {image : List UInt8} (hread : readFile bootPath = .ok image) (hne : image ≠ [])
    (hcov : m.layout.Covers 0 (bootAddr + image.length)) :
    ∃ m', BiosLoader.loadBootloader vmm readFile m bootPath = (m', .ok ()) := by
  obtain ⟨m₁, hw, hL₁⟩ :=
    vmm.writeSlice_covered hne (hcov.mono (Nat.zero_le bootAddr) (by omega))
  have hbelow : ∀ w ∈ biosWrites, w.bytes ≠ [] ∧ w.addr + w.bytes.length ≤ bootAddr := by decide
  obtain ⟨m₂, hbios, -⟩ := forList_ends (fun _ w hw hu => bootWrite_covered vmm (hbelow w hw).1
    (hcov.mono (Nat.zero_le w.addr) (by have := (hbelow w hw).2; omega)) hu) hL₁
  refine ⟨m₂, ?_⟩
  simp only [BiosLoader.loadBootloader, hread, hw, BiosLoader.installMinimalBios, hbios]

/-- A jump to itself, loaded into two megabytes of memory. -/
theorem loadBootloader_image_jump :
    ∃ m', BiosLoader.loadBootloader VmMemory.mmap (fun _ => .ok [0xEB, 0xFE]) (.ram 7) "boot.bin" =
        (m', .ok ()) ∧ BootImage (fun _ => 7) m'.bytes [0xEB, 0xFE] := by
  have hcov := GuestMemory.ram_covers 7 0 (bootAddr + 2) (by decide)
  obtain ⟨m', h⟩ : ∃ m', BiosLoader.loadBootloader VmMemory.mmap (fun _ => .ok [0xEB, 0xFE])
      (.ram 7) "boot.bin" = (m', .ok ()) :=
    BiosLoader.loadBootloader_of_covers VmMemory.mmap rfl (by decide) hcov
  obtain ⟨image, hread, -, himage⟩ := loadBootloader_image h
  obtain rfl := Except.ok.inj hread
  exact ⟨m', h, himage⟩

/-! ### Where the vCPUs start -/

/-- Registers with which a processor executes the image next: protection is off, and the
vector table is the one at address zero, with all of its entries. -/
structure AtBootImage (regs : KvmRegs) (sregs : KvmSregs) : Prop where
  unprotected : sregs.cr0 &&& 1 = 0
  start : (sregs.cs.base + regs.rip).toNat = bootAddr
  table : sregs.idt.base = 0
  entries : ∀ n < 256, 4 * n + 3 ≤ sregs.idt.limit.toNat

theorem atBootImage_realMode (regs : KvmRegs) (sregs : KvmSregs) :
    AtBootImage (realModeRegs regs) (realModeSregs sregs) where
  unprotected := (by decide : (0x10 : UInt64) &&& 1 = 0)
  start := (by decide : ((0 : UInt64) + 0x7c00).toNat = 0x7c00)
  table := rfl
  entries n hn := by
    have hlimit : (realModeSregs sregs).idt.limit.toNat = 0x3FF := rfl
    omega

/-- What `init_vcpu_for_real_mode` leaves in the registers, when it succeeds. -/
theorem BiosLoader.initVcpuForRealMode_ok {vcpu vcpu' : Vcpu V}
    (h : BiosLoader.initVcpuForRealMode kvm vcpu = (vcpu', .ok ())) :
    ∃ regs sregs, kvm.getRegs vcpu.fd = .ok regs ∧ kvm.getSregs vcpu.fd = .ok sregs ∧
      kvm.getRegs vcpu'.fd = .ok (realModeRegs regs) ∧
      kvm.getSregs vcpu'.fd = .ok (realModeSregs sregs) ∧ vcpu'.id = vcpu.id := by
  rw [BiosLoader.initVcpuForRealMode] at h
  rcases h₁ : updateRegs kvm.getSregs kvm.setSregs realModeSregs vcpu.fd with ⟨fd₁, e | u⟩
  · simp only [h₁] at h
    cases (Prod.mk.inj h).2
  rcases h₂ : updateRegs kvm.getRegs kvm.setRegs realModeRegs fd₁ with ⟨fd₂, e | u⟩
  · simp only [h₁, h₂] at h
    cases (Prod.mk.inj h).2
  simp only [h₁, h₂] at h
  obtain rfl := (Prod.mk.inj h).1
  obtain ⟨sregs, hsregs, hset₁⟩ := updateRegs_ok h₁
  obtain ⟨regs, hregs, hset₂⟩ := updateRegs_ok h₂
  -- neither of the two writes touches the other register set
  have hr₁ := kvm.getRegs_setSregs vcpu.fd (realModeSregs sregs)
  have hs₁ := kvm.getSregs_setSregs (congrArg Prod.snd hset₁)
  have hr₂ := kvm.getRegs_setRegs (congrArg Prod.snd hset₂)
  have hs₂ := kvm.getSregs_setRegs fd₁ (realModeRegs regs)
  rw [hset₁] at hr₁
  rw [hset₁, kvm.keptSregs_rewrites hsregs (rewrites_realModeSregs sregs)] at hs₁
  rw [hset₂, realModeRegs_kept] at hr₂
  rw [hset₂] at hs₂
  exact ⟨regs, sregs, hr₁.symm.trans hregs, hsregs, hr₂, hs₂.trans hs₁, rfl⟩

/-- **What a successful `load_bootloader` leaves behind**: the image with its BIOS, every vCPU
about to execute it, and nothing else changed. -/
theorem VirtualMachine.loadBootloader_ok {readFile : String → Except String (List UInt8)}
    {vm vm' : VirtualMachine V Q F S} {path : String}
    (h : vm.loadBootloader vmm kvm readFile path = (vm', .ok ())) :
    ∃ image, readFile path = .ok image ∧
      BootImage vm.memory.memory.bytes vm'.memory.memory.bytes image ∧
      (∀ vcpu ∈ vm'.vcpus, ∃ regs sregs, kvm.getRegs vcpu.fd = .ok regs ∧
        kvm.getSregs vcpu.fd = .ok sregs ∧ AtBootImage regs sregs) ∧
      vm' = { vm.withMemory vm'.memory.memory with vcpus := vm'.vcpus } := by
  rw [loadBootloader] at h
  rcases hload : BiosLoader.loadBootloader vmm readFile vm.memory.memory path with ⟨m, e | u⟩
  · rw [hload] at h
    cases (Prod.mk.inj h).2
  rcases hinit : eachVcpu (BiosLoader.initVcpuForRealMode kvm) vm.vcpus with ⟨vcpus, r⟩
  simp only [hload, hinit] at h
  obtain ⟨rfl, rfl⟩ := Prod.mk.inj h
  obtain ⟨image, hread, -, hbytes⟩ := BiosLoader.loadBootloader_ok hload
  refine ⟨image, hread, ?_, ?_, rfl⟩
  · show BootImage vm.memory.memory.bytes m.bytes image
    rw [hbytes]
    exact bootImage_bootloaderBlocks vm.memory.memory.bytes image
  · intro vcpu' hvcpu'
    obtain ⟨i, hi, rfl⟩ := List.getElem_of_mem hvcpu'
    have hforall := eachVcpu_ok hinit
    have hi₀ : i < vm.vcpus.length := hforall.length_eq ▸ hi
    obtain ⟨regs, sregs, -, -, hregs, hsregs, -⟩ :=
      BiosLoader.initVcpuForRealMode_ok (hforall.get hi₀ hi)
    exact ⟨_, _, hregs, hsregs, atBootImage_realMode regs sregs⟩

end MoVm
