import MoVm.KernelImage
import MoVm.PageTables
import MoVm.BootParams
import MoVm.BiosCalls
import MoVm.Program

/-!
# What the Guest Starts With

The state in which `main` hands a machine to `vm.run`, as the first instruction of the guest sees
it. It is put together by three files: `kernel_loader.rs` fills memory, `vcpu.rs` sets the
registers, and with `--bootloader` `bootloader.rs` writes its image over what the other two have
left.

`KernelMemory` says what a kernel relies on; it is established by the loader and kept by every boot
image that ends below the page tables.

## Main results

* `kernel_entry_state`: each vCPU fetches its first instruction from the entry point of the kernel,
  and finds the boot parameters that its registers point to.
* `bootloader_keeps_kernel`: with a boot image of at most five kilobytes, all of this is still
  there.
-/

open Lib

namespace MoVm

variable {V Q C F S W X Y : Type} {vmm : VmMemory} {env : DeviceEnv Q C F S W} {kvm : KvmVcpu V}
  {files : SnapshotFiles X} {b : Bincode Y} {inv : Invocation V F S} {fs : X}

/-! ### What a kernel relies on -/

/-- The boot parameters of every kernel. -/
def expectedParams : LinuxBootParams where
  typeOfLoader := 0xFF
  cmdLinePtr := cmdlineAddr
  e820Table := [{ addr := 0, size := 128 * 2 ^ 20, type := e820Ram }]

/-- Memory with a kernel in it, of whose own bytes those from `floor` on are in place. To a kernel
that takes the boot parameters for Multiboot information, the flags in their first four bytes say
that there is none. -/
structure KernelMemory (m : GuestMemory) (buffer : List UInt8) (elf : Elf) (floor : ℕ) : Prop where
  params : LinuxBootParams.decode m.bytes bootParamsAddr = expectedParams
  multiboot : slice m.bytes bootParamsAddr 4 = [0, 0, 0, 0]
  cmdline : ∀ s, IsCString m.bytes expectedParams.cmdLinePtr s ↔ s = utf8Bytes kernelCmdline
  tables : IdentityTables m.entryAt pageTableBase pdpteAddr pdeAddr 4
  image : ∀ a q, floor ≤ a → ¬BootArea kernelCmdline a → elf.lastSegment a = some q →
    q.byteAt buffer a = some (m.bytes a)

/-- The loader puts it there. -/
theorem kernelMemory_loadElf {m m' : GuestMemory} {buffer : List UInt8} {elf : Elf}
    {loader : KernelLoader} (h : loadElf vmm buffer elf m kernelCmdline = (m', .ok loader)) :
    KernelMemory m' buffer elf 0 where
  params := by
    refine LinuxBootParams.decode_bootParams ?_
    rw [(loadElf_ok h).2.1]
    exact slice_loadedBlocks_bootParams m.bytes buffer elf kernelCmdline
  multiboot := by
    have hpage : slice m'.bytes bootParamsAddr 4096 = bootParams := by
      rw [(loadElf_ok h).2.1]
      exact slice_loadedBlocks_bootParams m.bytes buffer elf kernelCmdline
    have hfirst := take_drop_slice (f := m'.bytes) (a := bootParamsAddr)
      (show 0 + 4 ≤ 4096 by decide)
    rw [hpage] at hfirst
    rw [← Nat.add_zero bootParamsAddr, ← hfirst]
    decide +kernel
  cmdline := by
    have hnul : 0 ∉ utf8Bytes kernelCmdline := by decide +kernel
    have hline : IsCString m'.bytes cmdlineAddr (utf8Bytes kernelCmdline) := by
      refine isCString_cmdline hnul ?_
      rw [(loadElf_ok h).2.1]
      exact slice_loadedBlocks_cmdline m.bytes buffer elf kernelCmdline
    exact fun s => ⟨fun hs => hs.unique hline, fun hs => hs ▸ hline⟩
  tables := identityTables_loadElf h
  image a q _ hboot hq := loadElf_lastSegment h (bootByte_of_notMem hboot) hq

/-! ### A boot image beside it -/

/-- The boot parameters are read from a few fields at the beginning of their page. -/
theorem LinuxBootParams.decode_congr {f g : ℕ → UInt8} {base : ℕ}
    (hfg : ∀ i < 0xc00, g (base + i) = f (base + i)) (hcount : (f (base + 0x1e8)).toNat ≤ 1) :
    LinuxBootParams.decode g base = LinuxBootParams.decode f base := by
  have hslice : ∀ off n, off + n ≤ 0xc00 → slice g (base + off) n = slice f (base + off) n := by
    intro off n hn
    refine slice_congr fun i hi => ?_
    rw [Nat.add_assoc]
    exact hfg _ (by omega)
  have hentry : ∀ i ∈ List.range (f (base + 0x1e8)).toNat,
      E820Entry.decode g (base + 0x2d0 + i * 20) = E820Entry.decode f (base + 0x2d0 + i * 20) := by
    intro i hi
    obtain rfl : i = 0 := by
      have := List.mem_range.mp hi
      omega
    show E820Entry.mk (leNat (slice g (base + 0x2d0) 8)) (leNat (slice g (base + 0x2d8) 8))
      (leNat (slice g (base + 0x2e0) 4)) = _
    rw [hslice _ _ (by decide), hslice _ _ (by decide), hslice _ _ (by decide)]
    rfl
  rw [decode, decode, hfg _ (by decide), hfg _ (by decide), hslice _ _ (by decide),
    List.map_congr_left hentry]

/-- What a boot image and its BIOS leave alone: everything but a few bytes in the first eight
kilobytes and the image itself. -/
theorem BootImage.above {f g : ℕ → UInt8} {image : List UInt8} (h : BootImage f g image) {x : ℕ}
    (hlow : 0x1011 ≤ x) (himage : x < bootAddr ∨ bootAddr + image.length ≤ x) : g x = f x := by
  have haddr : bootAddr = 0x7c00 := rfl
  refine h.frame x (by omega) (fun n hn => ?_) (by omega) (by omega)
  have hle : n ≤ 0x16 := by
    simp only [List.mem_cons, List.not_mem_nil, or_false] at hn
    omega
  omega

/-- What a kernel relies on is not in the first sectors from `bootAddr` on. -/
theorem KernelMemory.congr {m m' : GuestMemory} {buffer : List UInt8} {elf : Elf} {floor end' : ℕ}
    (h : KernelMemory m buffer elf floor) (hL : m'.layout = m.layout) (hend : end' ≤ 0x9000)
    (hlow : ∀ x, bootParamsAddr ≤ x → x < bootAddr → m'.bytes x = m.bytes x)
    (hhigh : ∀ x, end' ≤ x → m'.bytes x = m.bytes x) :
    KernelMemory m' buffer elf (max floor end') := by
  have haddr : bootAddr = 0x7c00 := rfl
  have hbase : bootParamsAddr = 0x7000 := rfl
  have hptr : expectedParams.cmdLinePtr = 0x10000 := rfl
  have hentry : ∀ a, 0x9000 ≤ a → m'.entryAt a = m.entryAt a := by
    intro a ha
    rw [GuestMemory.entryAt, GuestMemory.entryAt, hL, slice_congr fun i _ => hhigh _ (by omega)]
  refine ⟨?_, ?_, fun s => ?_, ?_, fun a q ha hboot hq => ?_⟩
  · have hparams := h.params
    have hcount : (m.bytes (bootParamsAddr + 0x1e8)).toNat = 1 := by
      have hlength := congrArg (fun p => p.e820Table.length) hparams
      simp only [LinuxBootParams.decode, List.length_map, List.length_range] at hlength
      exact hlength
    rw [← hparams]
    exact LinuxBootParams.decode_congr (fun i hi => hlow _ (by omega) (by omega))
      (Nat.le_of_eq hcount)
  · rw [← h.multiboot]
    exact slice_congr fun i hi => hlow _ (by omega) (by omega)
  · rw [← h.cmdline s]
    exact ⟨fun hs => hs.congr fun x hx => (hhigh x (by omega)).symm,
      fun hs => hs.congr fun x hx => hhigh x (by omega)⟩
  · exact h.tables.congr (fun i _ => hentry _ (by show 0x9000 ≤ 0x9000 + i * 8; omega))
      (fun i _ => hentry _ (by show 0x9000 ≤ 0xa000 + i * 8; omega))
      (fun i _ => hentry _ (by show 0x9000 ≤ 0xb000 + i * 8; omega))
  · rw [hhigh a (by omega)]
    exact h.image a q (by omega) hboot hq

/-- **An image that ends below the page tables keeps what a kernel relies on.** -/
theorem KernelMemory.of_bootImage {m m' : GuestMemory} {buffer image : List UInt8} {elf : Elf}
    (h : KernelMemory m buffer elf 0) (himage : BootImage m.bytes m'.bytes image)
    (hL : m'.layout = m.layout) (hlen : image.length ≤ 0x1400) :
    KernelMemory m' buffer elf (bootAddr + image.length) := by
  have haddr : bootAddr = 0x7c00 := rfl
  have hbase : bootParamsAddr = 0x7000 := rfl
  have hkept := h.congr hL (show bootAddr + image.length ≤ 0x9000 by omega)
    (fun x hlow hx => himage.above (by omega) (.inl hx))
    (fun x hx => himage.above (by omega) (.inr hx))
  rwa [Nat.zero_max] at hkept

/-! ### The processors -/

/-- Protected mode without paging, in flat segments of 4 GB with 32-bit code: an address is what
the program says it is. -/
structure FlatProtected (sregs : KvmSregs) : Prop where
  protection : sregs.cr0 &&& 1 = 1
  unpaged : sregs.cr0 &&& 0x80000000 = 0
  code : sregs.cs.base = 0 ∧ sregs.cs.limit = 0xFFFFFFFF ∧ sregs.cs.db = 1 ∧ sregs.cs.l = 0
  data : ∀ seg ∈ [sregs.ds, sregs.es, sregs.ss], seg.base = 0 ∧ seg.limit = 0xFFFFFFFF

/-- Where such a processor fetches its next instruction. -/
def fetchAddr (regs : KvmRegs) (sregs : KvmSregs) : ℕ :=
  (sregs.cs.base.toNat + regs.rip.toNat % 2 ^ 32) % 2 ^ 32

theorem flatProtected_boot (sregs : KvmSregs) : FlatProtected (bootSregs sregs) where
  protection := (by decide : (0x11 : UInt64) &&& 1 = 1)
  unpaged := (by decide : (0x11 : UInt64) &&& 0x80000000 = 0)
  code := ⟨rfl, rfl, rfl, rfl⟩
  data seg hseg := by
    simp only [List.mem_cons, List.not_mem_nil, or_false] at hseg
    rcases hseg with rfl | rfl | rfl <;> exact ⟨rfl, rfl⟩

/-- About to execute the kernel: without interrupts, with the boot parameters in `rsi`. -/
structure AtKernelEntry (m : GuestMemory) (entry : UInt64) (regs : KvmRegs) (sregs : KvmSregs) :
    Prop where
  flat : FlatProtected sregs
  masked : regs.rflags &&& 0x200 = 0
  fetch : fetchAddr regs sregs = entry.toNat
  backed : m.layout.Covers (fetchAddr regs sregs) 16
  params : regs.rsi.toNat = bootParamsAddr

/-- The last thing that the loader does is to read the first instructions. -/
theorem loadElf_entry {m m' : GuestMemory} {buffer : List UInt8} {elf : Elf} {cmdline : String}
    {loader : KernelLoader} (h : loadElf vmm buffer elf m cmdline = (m', .ok loader)) :
    m'.layout.Covers elf.entry.toNat 16 := by
  unfold loadElf at h
  rcases hseg : forList (loadSegment vmm buffer) elf.programHeaders m with ⟨m₁, _ | r⟩
  · simp only [hseg] at h
    rcases hboot : forList (bootWrite vmm) (bootWrites cmdline) m₁ with ⟨m₂, _ | e⟩
    · simp only [hboot] at h
      rcases hread : vmm.readSlice m₂ elf.entry.toNat (List.replicate 16 0) with ⟨buf, e | u⟩
      · simp only [hread] at h
        cases (Prod.mk.inj h).2
      · simp only [hread] at h
        obtain rfl := (Prod.mk.inj h).1
        have hok := (vmm.readSlice_ok_iff m₂ elf.entry.toNat (List.replicate 16 0) (by decide)).mp
          (by rw [hread])
        rwa [List.length_replicate] at hok
    · simp only [hboot] at h
      cases (Prod.mk.inj h).2
  · simp only [hseg] at h
    cases r with
    | ok x => exact x.elim
    | err e => cases (Prod.mk.inj h).2
    | panic => cases (Prod.mk.inj h).2

/-- An address in the memory of a machine is one of 32 bits. -/
theorem lt_of_covers {L : Layout} {a n : ℕ} (hn : 0 < n)
    (hL : L.regions.map (fun r => (r.start, r.len)) = [(0, memorySize)]) (h : L.Covers a n) :
    a < 2 ^ 32 := by
  obtain ⟨r, hr, hrange⟩ := List.map_eq_singleton_iff.mp hL
  obtain ⟨hstart, hlen⟩ := Prod.mk.inj hrange
  obtain ⟨r', hr', -, hlt⟩ := h 0 hn
  rw [hr] at hr'
  obtain rfl := List.mem_singleton.mp hr'
  have hsize : memorySize < 2 ^ 32 := by decide
  omega

/-- What `load_kernel` leaves: the kernel in memory, and every vCPU at its entry point. -/
theorem VirtualMachine.loadKernel_state {kernels : KernelFiles} {vm vm' : VirtualMachine V Q F S}
    {path : String}
    (hL : vm.memory.memory.layout.regions.map (fun r => (r.start, r.len)) = [(0, memorySize)])
    (h : vm.loadKernel vmm kvm kernels path = (vm', .ok ())) :
    ∃ buffer elf, kernels.readFile path = .ok buffer ∧ kernels.parse buffer = .ok elf ∧
      KernelMemory vm'.memory.memory buffer elf 0 ∧
      ∀ vcpu ∈ vm'.vcpus, ∃ regs sregs,
        kvm.getRegs vcpu.fd = .ok regs ∧ kvm.getSregs vcpu.fd = .ok sregs ∧
          AtKernelEntry vm'.memory.memory elf.entry regs sregs := by
  obtain ⟨buffer, elf, hread, hparse, -, hinit, -, -⟩ := loadKernel_ok h
  obtain ⟨loader, hload⟩ := loadKernel_loads h
  obtain ⟨buffer', elf', hread', hparse', helf⟩ := KernelLoader.loadKernel_eq_ok hload
  obtain rfl : buffer = buffer' := Except.ok.inj (hread.symm.trans hread')
  obtain rfl : elf = elf' := Except.ok.inj (hparse.symm.trans hparse')
  refine ⟨buffer, elf, hread, hparse, kernelMemory_loadElf helf, fun vcpu hvcpu => ?_⟩
  obtain ⟨i, hi, rfl⟩ := List.getElem_of_mem hvcpu
  have hforall := initVcpus_ok hinit
  have hi₀ : i < vm.vcpus.length := hforall.length_eq ▸ hi
  obtain ⟨regs, sregs, -, -, hregs, hsregs, -⟩ := Vcpu.init_spec (hforall.get hi₀ hi)
  have hentry := loadElf_entry helf
  have hlt : elf.entry.toNat < 2 ^ 32 :=
    lt_of_covers (by decide) ((loadElf_ok helf).1 ▸ hL) hentry
  have hfetch : fetchAddr (bootRegs elf.entry 0x7000 regs) (bootSregs sregs) = elf.entry.toNat := by
    show (0 + elf.entry.toNat % 2 ^ 32) % 2 ^ 32 = elf.entry.toNat
    omega
  exact ⟨_, _, hregs, hsregs, flatProtected_boot sregs, (by decide : (2 : UInt64) &&& 0x200 = 0),
    hfetch, hfetch ▸ hentry, rfl⟩

/-! ### Invocations -/

/-- The kernel that an invocation has loaded, and what came after it. -/
theorem Invocation.Starts.loaded {vm : VirtualMachine V Q F S}
    (h : inv.Starts vmm env kvm files b fs vm) :
    ∃ vm₁ : VirtualMachine V Q F S, ∃ buffer elf,
      inv.kernels.readFile inv.args.kernel = .ok buffer ∧ inv.kernels.parse buffer = .ok elf ∧
      KernelMemory vm₁.memory.memory buffer elf 0 ∧
      (∀ vcpu ∈ vm₁.vcpus, ∃ regs sregs, kvm.getRegs vcpu.fd = .ok regs ∧
        kvm.getSregs vcpu.fd = .ok sregs ∧
        AtKernelEntry vm₁.memory.memory elf.entry regs sregs) ∧
      (inv.bootloader = none ∧ vm = vm₁ ∨ ∃ path, inv.bootloader = some path ∧
        vm₁.loadBootloader vmm kvm inv.kernels.readFile path = (vm, .ok ())) := by
  have hrestore := h.restoreState
  obtain ⟨vm₀, hnew, hboot⟩ := h
  obtain ⟨vm₂, hstart, hend⟩ := startupBoot_phases hboot
  obtain ⟨vm₁, hattach, hload⟩ := startup_phases hrestore hstart
  have hL : vm₁.memory.memory.layout.regions.map (fun r => (r.start, r.len)) =
      [(0, memorySize)] := by
    rw [(mainSteps_ok hattach).1]
    exact (VirtualMachine.new_spec hnew).1
  obtain ⟨buffer, elf, hread, hparse, hmemory, hvcpus⟩ := VirtualMachine.loadKernel_state hL hload
  exact ⟨vm₂, buffer, elf, hread, hparse, hmemory, hvcpus, hend⟩

/-- **The first instruction of a kernel.** Without `--bootloader`, `vm.run` starts with the kernel,
its page tables, boot parameters and command line in memory; each vCPU is in flat 32-bit protected
mode without paging and with interrupts off, fetches its next instruction from the entry point, of
which sixteen bytes are in memory, and has the address of the boot parameters in `rsi`. -/
theorem kernel_entry_state {vm : VirtualMachine V Q F S}
    (hstart : inv.Starts vmm env kvm files b fs vm) (hboot : inv.bootloader = none) :
    ∃ buffer elf, inv.kernels.readFile inv.args.kernel = .ok buffer ∧
      inv.kernels.parse buffer = .ok elf ∧ KernelMemory vm.memory.memory buffer elf 0 ∧
      ∀ vcpu ∈ vm.vcpus, ∃ regs sregs, kvm.getRegs vcpu.fd = .ok regs ∧
        kvm.getSregs vcpu.fd = .ok sregs ∧ AtKernelEntry vm.memory.memory elf.entry regs sregs := by
  obtain ⟨vm₁, buffer, elf, hread, hparse, hmemory, hvcpus, ⟨-, rfl⟩ | ⟨path, hpath, -⟩⟩ :=
    hstart.loaded
  · exact ⟨buffer, elf, hread, hparse, hmemory, hvcpus⟩
  · rw [hboot] at hpath
    cases hpath

/-- A kernel on the plain host. -/
theorem kernel_entry_state_plain :
    ∃ vm : VirtualMachine PlainVcpu GatedQueue DiskFile Unit, ∃ buffer elf,
      KernelMemory vm.memory.memory buffer elf 0 ∧ ∃ vcpu ∈ vm.vcpus, ∃ regs sregs,
        PlainVcpu.kvm.getRegs vcpu.fd = .ok regs ∧
        AtKernelEntry vm.memory.memory elf.entry regs sregs := by
  obtain ⟨vm₀, hnew⟩ := VirtualMachine.new_gated
  obtain ⟨vm, hstart⟩ := Invocation.plain_starts hnew none fun _ => none
  obtain ⟨buffer, elf, -, -, hmemory, hvcpus⟩ := kernel_entry_state hstart rfl
  obtain ⟨vcpu, hone⟩ := List.length_eq_one_iff.mp (hstart.spec GatedQueue.readiness).2.2
  have hvcpu : vcpu ∈ vm.vcpus := hone ▸ List.mem_singleton_self vcpu
  obtain ⟨regs, sregs, hregs, -, hentry⟩ := hvcpus vcpu hvcpu
  exact ⟨vm, buffer, elf, hmemory, vcpu, hvcpu, regs, sregs, hregs, hentry⟩

/-- An invocation with a kernel, a boot image and two vCPUs. -/
def Invocation.boot (image : List UInt8) : Invocation PlainVcpu DiskFile Unit :=
  { Invocation.plain none none with
    cpus := 2
    bootloader := some "boot.bin"
    kernels :=
      { KernelFiles.twoBytes with
        readFile := fun path =>
          if path = "boot.bin" then .ok image else KernelFiles.twoBytes.readFile path } }

/-- `load_kernel` reads one file. -/
theorem VirtualMachine.loadKernel_congr {kernels kernels' : KernelFiles} {path : String}
    {vm : VirtualMachine V Q F S} (hread : kernels.readFile path = kernels'.readFile path)
    (hparse : kernels.parse = kernels'.parse) :
    vm.loadKernel vmm kvm kernels path = vm.loadKernel vmm kvm kernels' path := by
  rw [loadKernel, loadKernel, KernelLoader.loadKernel, KernelLoader.loadKernel, hread, hparse]

/-- It starts with every image that fits. -/
theorem Invocation.boot_starts {image : List UInt8} (hne : image ≠ [])
    (hfit : bootAddr + image.length ≤ memorySize) (fs : String → Option (List UInt8)) :
    ∃ vm : VirtualMachine PlainVcpu GatedQueue DiskFile Unit,
      (Invocation.boot image).Starts VmMemory.mmap DeviceEnv.plain PlainVcpu.kvm SnapshotFiles.plain
        Bincode.plain fs vm := by
  obtain ⟨_, _, hnew, -⟩ := VirtualMachine.new_attach_gatedConsole
  obtain ⟨vm₁, hstart⟩ := Invocation.plain_starts hnew none fs
  obtain ⟨hL, -, -⟩ := hstart.spec GatedQueue.readiness
  obtain ⟨vm, hload, -⟩ := VirtualMachine.loadBootloader_plain hne hL hfit
  have hload' : vm₁.loadBootloader VmMemory.mmap PlainVcpu.kvm
      ((Invocation.boot image).host SnapshotFiles.plain Bincode.plain fs).kernels.readFile
      "boot.bin" = (vm, .ok ()) := hload
  obtain ⟨vm₀, hnew, hboot⟩ := hstart
  obtain ⟨vm₂, hstartup, ⟨-, rfl⟩ | ⟨_, ⟨⟩, -⟩⟩ := startupBoot_phases hboot
  obtain ⟨vm₂, hattach, hkernel⟩ := startup_phases rfl hstartup
  have hattach' : forList (mainStep DeviceEnv.plain.queue
      ((Invocation.boot image).host SnapshotFiles.plain Bincode.plain fs).hosts)
      ((Invocation.boot image).args.steps ((Invocation.boot image).host SnapshotFiles.plain
        Bincode.plain fs).fileName).zipIdx vm₀ = (vm₂, none) := hattach
  have hplain : vm₂.loadKernel VmMemory.mmap PlainVcpu.kvm KernelFiles.twoBytes "vmlinux" =
      (vm₁, .ok ()) := hkernel
  have hfile : (Invocation.boot image).kernels.readFile "vmlinux" =
      KernelFiles.twoBytes.readFile "vmlinux" := rfl
  have hkernel' : vm₂.loadKernel VmMemory.mmap PlainVcpu.kvm
      ((Invocation.boot image).host SnapshotFiles.plain Bincode.plain fs).kernels
      (Invocation.boot image).args.kernel = (vm₁, .ok ()) :=
    (VirtualMachine.loadKernel_congr hfile rfl).trans hplain
  have hrestore : (Invocation.boot image).args.restoreState = none := rfl
  have hpath : (Invocation.boot image).bootloader = some "boot.bin" := rfl
  exact ⟨vm, vm₀, hnew, by simp only [startupBoot, startup, hattach', hrestore, hkernel', hpath,
    hload']⟩

/-- **A small boot image leaves the kernel in place.** With `--bootloader`, each vCPU is in real
mode at the image instead; but if the image has at most `0x1400` bytes, then the boot parameters and
the command line can still be read, the page tables still map the first 4 GB to themselves, and all
of the kernel behind the image is as the loader has left it. -/
theorem bootloader_keeps_kernel {vm : VirtualMachine V Q F S} {path : String}
    (hstart : inv.Starts vmm env kvm files b fs vm) (hboot : inv.bootloader = some path) :
    ∃ buffer elf image, inv.kernels.readFile inv.args.kernel = .ok buffer ∧
      inv.kernels.parse buffer = .ok elf ∧ inv.kernels.readFile path = .ok image ∧
      (∀ vcpu ∈ vm.vcpus, ∃ regs sregs, kvm.getRegs vcpu.fd = .ok regs ∧
        kvm.getSregs vcpu.fd = .ok sregs ∧ AtBootImage regs sregs) ∧
      slice vm.memory.memory.bytes bootAddr image.length = image ∧
      (image.length ≤ 0x1400 →
        KernelMemory vm.memory.memory buffer elf (bootAddr + image.length)) := by
  obtain ⟨vm₁, buffer, elf, hread, hparse, hmemory, -, ⟨hnone, -⟩ | ⟨path', hpath, hload⟩⟩ :=
    hstart.loaded
  · rw [hboot] at hnone
    cases hnone
  · obtain rfl : path = path' := Option.some.inj (hboot.symm.trans hpath)
    obtain ⟨image, himage, hbytes, hvcpus, -⟩ := VirtualMachine.loadBootloader_ok hload
    obtain ⟨hL, -, -⟩ := VirtualMachine.loadBootloader_layout hload
    exact ⟨buffer, elf, image, hread, hparse, himage, hvcpus, hbytes.loaded,
      hmemory.of_bootImage hbytes hL⟩

/-- Two bytes beside a kernel. -/
theorem bootloader_keeps_kernel_jump :
    ∃ vm : VirtualMachine PlainVcpu GatedQueue DiskFile Unit, ∃ buffer elf,
      slice vm.memory.memory.bytes bootAddr 2 = [0xEB, 0xFE] ∧
      KernelMemory vm.memory.memory buffer elf (bootAddr + 2) := by
  obtain ⟨vm, hstart⟩ := Invocation.boot_starts (List.cons_ne_nil 0xEB [0xFE]) (by decide)
    fun _ => none
  obtain ⟨buffer, elf, image, -, -, hread, -, hloaded, hkept⟩ := bootloader_keeps_kernel hstart rfl
  obtain rfl : [0xEB, 0xFE] = image := Except.ok.inj hread
  exact ⟨vm, buffer, elf, hloaded, hkept (by decide)⟩

end MoVm
