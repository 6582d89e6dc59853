import MoVm.Machine

/-!
# Booting a Kernel

`VirtualMachine::load_kernel` of `vm.rs` and the device part of `main`: the kernel and its
boot data are written to guest memory, with a fixed command line that tells the guest where
its devices are, and every vCPU is initialised.

The command line fixes an IRQ for each window, while `allocate_irq` hands them out in the
order of the calls. `assignments` lists the devices a sequence of calls attaches with the
IRQ each call was given, and `announcedIrq` reads the command line as the guest does.

## Main results

* `VirtualMachine.loadKernel_ok`: what a successful call leaves in memory and registers.
* `irqs_announced_iff`: for the devices of `main`, the IRQs announced are the IRQs assigned
  exactly when no optional device is left out before another one and at most one directory
  is shared.
-/

open Lib

namespace MoVm

/-! ### `load_kernel` -/

/-- The command line of `VirtualMachine::load_kernel`. -/
def kernelCmdline : String :=
  "console=hvc0 root=/dev/vda rw virtio_mmio.device=4K@0x1000:5 " ++
    "virtio_mmio.device=4K@0x2000:6 virtio_mmio.device=4K@0x3000:7 " ++
      "virtio_mmio.device=4K@0x4000:8"

variable {V Q C F S : Type} (vmm : VmMemory) (vq : VirtioQueue Q C) (kvm : KvmVcpu V)

/-- The loop over the vCPUs, up to the first failure. -/
def initVcpus (entry bootParams : UInt64) :
    List (Vcpu V) → List (Vcpu V) × Except HypervisorError Unit
  | [] => ([], .ok ())
  | vcpu :: vcpus =>
      match vcpu.init kvm entry bootParams with
      | (vcpu', .error e) => (vcpu' :: vcpus, .error e)
      | (vcpu', .ok ()) =>
          let (vcpus', r) := initVcpus entry bootParams vcpus
          (vcpu' :: vcpus', r)

/-- The machine with other guest memory content. -/
def VirtualMachine.withMemory (vm : VirtualMachine V Q F S) (m : GuestMemory) :
    VirtualMachine V Q F S :=
  { vm with memory := { vm.memory with memory := m } }

/-- `VirtualMachine::load_kernel`: the machine afterwards, and how it ended. -/
def VirtualMachine.loadKernel (files : KernelFiles) (vm : VirtualMachine V Q F S)
    (kernelPath : String) : VirtualMachine V Q F S × Outcome HypervisorError Unit :=
  match KernelLoader.loadKernel vmm files vm.memory.memory kernelPath kernelCmdline with
  | (m, .panic) => (vm.withMemory m, .panic)
  | (m, .err e) => (vm.withMemory m, .err e)
  | (m, .ok loader) =>
      match initVcpus kvm loader.entryPoint 0x7000 vm.vcpus with
      | (vcpus, .error e) => ({ vm.withMemory m with vcpus }, .err e)
      | (vcpus, .ok ()) =>
          ({ vm.withMemory m with vcpus, kernelLoader := some loader }, .ok ())

variable {vmm vq kvm}

/-- `load_kernel` initialises the vCPUs one after the other. -/
theorem initVcpus_eq_eachVcpu (entry bootParams : UInt64) (vcpus : List (Vcpu V)) :
    initVcpus kvm entry bootParams vcpus =
      eachVcpu (fun vcpu => vcpu.init kvm entry bootParams) vcpus := by
  induction vcpus with
  | nil => rfl
  | cons vcpu vcpus ih =>
      rcases hv : vcpu.init kvm entry bootParams with ⟨vcpu', e | u⟩
      · simp only [initVcpus, eachVcpu, hv]
      · simp only [initVcpus, eachVcpu, hv, ih]

/-- Initialising the vCPUs, when it succeeds, initialises each of them. -/
theorem initVcpus_ok {entry bootParams : UInt64} {vcpus vcpus' : List (Vcpu V)}
    (h : initVcpus kvm entry bootParams vcpus = (vcpus', .ok ())) :
    List.Forall₂ (fun vcpu vcpu' => vcpu.init kvm entry bootParams = (vcpu', .ok ()))
      vcpus vcpus' :=
  eachVcpu_ok ((initVcpus_eq_eachVcpu entry bootParams vcpus).symm.trans h)

/-- **What a successful `load_kernel` leaves behind**: memory patched with the blocks of the
kernel, every vCPU initialised at its entry point, and nothing else changed. -/
theorem VirtualMachine.loadKernel_ok {files : KernelFiles} {vm vm' : VirtualMachine V Q F S}
    {kernelPath : String} (h : vm.loadKernel vmm kvm files kernelPath = (vm', .ok ())) :
    ∃ buffer elf, files.readFile kernelPath = .ok buffer ∧ files.parse buffer = .ok elf ∧
      vm'.memory.memory.bytes =
        patches vm.memory.memory.bytes (loadedBlocks buffer elf kernelCmdline) ∧
      initVcpus kvm elf.entry 0x7000 vm.vcpus = (vm'.vcpus, .ok ()) ∧
      vm'.kernelLoader = some { entryPoint := elf.entry, cmdline := kernelCmdline } ∧
      vm'.devices = vm.devices := by
  unfold loadKernel at h
  rcases hload : KernelLoader.loadKernel vmm files vm.memory.memory kernelPath kernelCmdline
    with ⟨m, loader | e | _⟩
  · obtain ⟨buffer, elf, hread, hparse, -, hbytes, rfl⟩ := KernelLoader.loadKernel_ok hload
    simp only [hload] at h
    rcases hinit : initVcpus kvm elf.entry 0x7000 vm.vcpus with ⟨vcpus, e | u⟩
    · simp only [hinit] at h
      cases (Prod.mk.inj h).2
    · simp only [hinit] at h
      obtain rfl := (Prod.mk.inj h).1
      exact ⟨buffer, elf, hread, hparse, hbytes, hinit, rfl, rfl⟩
  · simp only [hload] at h
    cases (Prod.mk.inj h).2
  · simp only [hload] at h
    cases (Prod.mk.inj h).2

/-! ### A kernel that loads -/

/-- The command line of `main` with its NUL. -/
theorem length_cmdlineBytes_kernelCmdline : (cmdlineBytes kernelCmdline).length = 154 := by
  decide +kernel

/-- The kernel of two bytes fits into the memory of a new machine. -/
theorem loadable_twoBytes {L : Layout}
    (hL : L.regions.map (fun r => (r.start, r.len)) = [(0, memorySize)]) :
    Loadable L [0x55, 0xAA] ⟨0x100000, [⟨ptLoad, 0, 0x100000, 2, 2⟩]⟩ kernelCmdline := by
  obtain ⟨r, hr, hrange⟩ := List.map_eq_singleton_iff.mp hL
  obtain ⟨hstart, hlen⟩ := Prod.mk.inj hrange
  have hcovers : ∀ a n, a + n ≤ memorySize → L.Covers a n := fun a n han =>
    L.covers_of_mem (hr ▸ List.mem_singleton_self r) (by omega) (by omega)
  refine .of_below hcovers (by decide) (by decide) ?_ (by decide)
  rw [length_cmdlineBytes_kernelCmdline]
  decide

/-- Plain vCPUs are initialised. -/
theorem initVcpus_plain (entry bootParams : UInt64) (vcpus : List (Vcpu PlainVcpu)) :
    ∃ vcpus', initVcpus PlainVcpu.kvm entry bootParams vcpus = (vcpus', .ok ()) := by
  rw [initVcpus_eq_eachVcpu]
  exact eachVcpu_of_ok (fun _ => rfl) vcpus

/-- A machine with the memory of a new one loads the kernel of two bytes. -/
theorem VirtualMachine.loadKernel_twoBytes (vmm : VmMemory)
    {vm : VirtualMachine PlainVcpu Q F S} (kernelPath : String)
    (hL : vm.memory.memory.layout.regions.map (fun r => (r.start, r.len)) =
      [(0, memorySize)]) :
    ∃ vm', vm.loadKernel vmm PlainVcpu.kvm KernelFiles.twoBytes kernelPath = (vm', .ok ()) := by
  obtain ⟨m, hm⟩ := loadElf_of_loadable vmm (loadable_twoBytes hL)
  have hload : KernelLoader.loadKernel vmm KernelFiles.twoBytes vm.memory.memory kernelPath
      kernelCmdline = (m, .ok ⟨0x100000, kernelCmdline⟩) := hm
  obtain ⟨vcpus, hinit⟩ := initVcpus_plain 0x100000 0x7000 vm.vcpus
  simp only [loadKernel, hload, hinit]
  exact ⟨_, rfl⟩

/-! ### The devices of `main` -/

/-- The options of `main` that decide about devices and startup. -/
structure Args where
  kernel : String
  disk : Option String
  readOnly : Bool
  net : Option String
  peer : Option String
  share : List String
  restoreState : Option String
deriving DecidableEq

/-- Nothing but a kernel. -/
def Args.plain : Args where
  kernel := "vmlinux"
  disk := none
  readOnly := false
  net := none
  peer := none
  share := []
  restoreState := none

/-- A step of the device part of `main`: attach a device, or leave the process. -/
inductive MainStep
  | attach (call : AttachCall)
  | exit
deriving DecidableEq

/-- The steps of `main` from the console to the shared directories. `--net` without
`--peer` leaves the process; the tag of a shared directory is its file name. -/
def Args.steps (fileName : String → Option String) (args : Args) : List MainStep :=
  [.attach .console] ++
    (match args.disk with
    | some diskPath => [.attach (.block diskPath args.readOnly)]
    | none => []) ++
    (match args.net, args.peer with
    | some netAddr, some peer => [.attach (.net netAddr peer)]
    | some _, none => [.exit]
    | none, _ => []) ++
    args.share.map fun share =>
      .attach (.fs ((fileName share).getD "shared") share false)

/-! ### IRQs -/

/-- The devices a sequence of calls attaches, each with the IRQ that `allocate_irq`
returned in its call. -/
def VirtualMachine.assignments (vq : VirtioQueue Q C) (vm : VirtualMachine V Q F S) :
    List (AttachHost F S × AttachCall) → List (VirtioMmioDevice Q F S × UInt32)
  | [] => []
  | (host, call) :: calls =>
      match vm.attach vq host call with
      | (vm', .ok ()) =>
          vm'.devices.getLast?.toList.map (fun dev => (dev, vm.allocateIrq.2)) ++
            vm'.assignments vq calls
      | (vm', .error _) => vm'.assignments vq calls

/-- The value of a numeral. -/
def numeral (radix : ℕ) (digits : List Char) : Option ℕ :=
  digits.foldlM
    (fun n c =>
      let d := if c.isDigit then c.toNat - '0'.toNat else c.toNat - 'a'.toNat + 10
      if d < radix then some (n * radix + d) else none) 0

/-- A command line parameter of the form `virtio_mmio.device=4K@0x<base>:<irq>`. -/
def announcement (param : List Char) : Option (ℕ × ℕ) :=
  match param.splitOn '@' with
  | [key, place] =>
      if key = "virtio_mmio.device=4K".toList then
        match place.splitOn ':' with
        | ['0' :: 'x' :: base, irq] => do
            let base ← numeral 16 base
            let irq ← numeral 10 irq
            return (base, irq)
        | _ => none
      else none
  | _ => none

/-- The devices a command line announces, by base address and IRQ. -/
def announced (cmdline : String) : List (ℕ × ℕ) :=
  (cmdline.toList.splitOn ' ').filterMap announcement

/-- The IRQ a command line announces for a base address. -/
def announcedIrq (cmdline : String) (base : UInt64) : Option ℕ :=
  (announced cmdline).lookup base.toNat

/-- The devices that the command line of `main` announces. -/
theorem announced_kernelCmdline :
    announced kernelCmdline = [(0x1000, 5), (0x2000, 6), (0x3000, 7), (0x4000, 8)] := by
  decide +kernel

/-- The IRQs that `n` allocations return. -/
def irqsFrom : UInt32 → ℕ → List UInt32
  | _, 0 => []
  | irq, n + 1 => irq :: irqsFrom (irq + 1) n

/-- A device that is attached gets the next IRQ. -/
theorem VirtualMachine.assignments_cons {vm : VirtualMachine V Q F S} {host : AttachHost F S}
    {call : AttachCall} {dev : VirtioMmioDevice Q F S}
    (h : vm.attach vq host call = (vm.push dev, .ok ()))
    {calls : List (AttachHost F S × AttachCall)} :
    vm.assignments vq ((host, call) :: calls) =
      (dev, vm.nextIrq) :: (vm.push dev).assignments vq calls := by
  have hlast : (vm.push dev).devices.getLast? = some dev := List.getLast?_concat
  simp only [assignments, h, hlast]
  rfl

/-- When all calls succeed, the devices get consecutive IRQs in the order of the calls. -/
theorem VirtualMachine.assignments_of_ok {vm vm' : VirtualMachine V Q F S}
    {calls : List (AttachHost F S × AttachCall)} {rs : List (Except HypervisorError Unit)}
    (h : vm.attachSeq vq calls = (vm', rs)) (hok : ∀ r ∈ rs, r = .ok ()) :
    vm'.devices = vm.devices ++ (vm.assignments vq calls).map Prod.fst ∧
      (vm.assignments vq calls).map (fun x => (x.1.window, x.2)) =
        (calls.map fun call => call.2.kind.window).zip (irqsFrom vm.nextIrq calls.length) := by
  induction calls generalizing vm vm' rs with
  | nil =>
      obtain ⟨rfl, rfl⟩ := Prod.mk.inj h
      exact ⟨(List.append_nil _).symm, rfl⟩
  | cons step calls ih =>
      obtain ⟨host, call⟩ := step
      simp only [attachSeq] at h
      rcases vm.attach_cases vq host call with ⟨device, hcall⟩ | ⟨e, hcall⟩
      · rcases hrest : (vm.push (.new device call.kind.base)).attachSeq vq calls with ⟨vm₁, rs₁⟩
        rw [hcall] at h
        simp only [hrest] at h
        obtain ⟨rfl, rfl⟩ := Prod.mk.inj h
        obtain ⟨hdev, hirq⟩ := ih hrest fun r hr => hok r (List.mem_cons_of_mem _ hr)
        rw [assignments_cons hcall, List.map_cons, List.map_cons, hirq, hdev, push,
          List.append_assoc, List.singleton_append]
        exact ⟨rfl, rfl⟩
      · rw [hcall] at h
        obtain ⟨-, rfl⟩ := Prod.mk.inj h
        cases hok _ List.mem_cons_self

/-- The IRQ announced for the devices of a kind. -/
def DeviceKind.announcedIrq : DeviceKind → UInt32
  | .console => 5
  | .block => 6
  | .net => 7
  | .fs => 8

/-- The command line announces each kind of device at its base address. -/
theorem announcedIrq_kernelCmdline (kind : DeviceKind) :
    MoVm.announcedIrq kernelCmdline kind.base = some kind.announcedIrq.toNat := by
  rw [MoVm.announcedIrq, announced_kernelCmdline]
  cases kind <;> rfl

/-! ### The IRQs of the devices of `main` -/

/-- The kind of device a step attaches. -/
def MainStep.kind? : MainStep → Option DeviceKind
  | .attach call => some call.kind
  | .exit => none

/-- The kinds of the devices the options ask for, in the order of `main`. -/
def Args.kinds (args : Args) : List DeviceKind :=
  .console :: (if args.disk.isSome then [.block] else []) ++
    (if args.net.isSome then [.net] else []) ++ args.share.map fun _ => .fs

/-- The calls that `main` gets through attach the kinds the options ask for. -/
theorem Args.kinds_of_steps {fileName : String → Option String} {args : Args}
    {calls : List (AttachHost F S × AttachCall)}
    (h : args.steps fileName = calls.map fun call => .attach call.2) :
    calls.map (fun call => call.2.kind) = args.kinds := by
  have hkinds : (calls.map fun call => call.2.kind).map some =
      (args.steps fileName).map MainStep.kind? := by
    rw [h, List.map_map, List.map_map]
    rfl
  have hexit : MainStep.exit ∉ args.steps fileName := by
    rw [h]
    intro hmem
    obtain ⟨call, -, hcall⟩ := List.mem_map.mp hmem
    cases hcall
  refine (List.map_inj_right fun _ _ => Option.some.inj).mp (hkinds.trans ?_)
  clear hkinds h
  obtain ⟨kernel, disk, readOnly, net, peer, share, restoreState⟩ := args
  have hshare : (share.map fun dir => MainStep.attach
      (.fs ((fileName dir).getD "shared") dir false)).map MainStep.kind? =
        (share.map fun _ => DeviceKind.fs).map some := by
    rw [List.map_map, List.map_map]
    rfl
  simp only [steps, kinds, List.map_append, hshare]
  congr 1
  cases net with
  | none => cases disk <;> rfl
  | some netAddr =>
      cases peer with
      | none => exact absurd (by simp [steps]) hexit
      | some peer => cases disk <;> rfl

/-- The devices of these kinds, attached in this order, are given the IRQs announced for
them, all different. -/
def IrqsAgree (kinds : List DeviceKind) : Prop :=
  (∀ x ∈ kinds.zip (irqsFrom 5 kinds.length), x.1.announcedIrq = x.2) ∧
    (irqsFrom 5 kinds.length).Nodup

instance (kinds : List DeviceKind) : Decidable (IrqsAgree kinds) :=
  inferInstanceAs (Decidable (_ ∧ _))

/-- The options under which they do: no network without a disk, and a shared directory
only behind both, and only one. -/
def Args.InOrder (args : Args) : Prop :=
  (args.net.isSome → args.disk.isSome) ∧
    (args.share = [] ∨ args.disk.isSome ∧ args.net.isSome ∧ args.share.length = 1)

/-- The options under which the IRQs agree, by cases on them. -/
theorem Args.irqsAgree_iff (args : Args) : IrqsAgree args.kinds ↔ args.InOrder := by
  obtain ⟨kernel, disk, readOnly, net, peer, share, restoreState⟩ := args
  -- with two directories or more, both the first and the second would need IRQ 8
  rcases share with _ | ⟨dir, _ | ⟨dir', share⟩⟩ <;> cases disk <;> cases net <;>
    simp [InOrder, kinds, IrqsAgree, irqsFrom, DeviceKind.announcedIrq]

theorem length_irqsFrom (irq : UInt32) (n : ℕ) : (irqsFrom irq n).length = n := by
  induction n generalizing irq with
  | zero => rfl
  | succ n ih => rw [irqsFrom, List.length_cons, ih]

/-- Whether devices that were given consecutive IRQs from 5 on have the IRQs announced for
them depends on their kinds only. -/
theorem announced_iff_irqsAgree {kinds : List DeviceKind}
    {devs : List (VirtioMmioDevice Q F S × UInt32)}
    (h : devs.map (fun x => (x.1.window, x.2)) =
      (kinds.map DeviceKind.window).zip (irqsFrom 5 kinds.length)) :
    ((∀ x ∈ devs, announcedIrq kernelCmdline x.1.baseAddr = some x.2.toNat) ∧
      (devs.map Prod.snd).Nodup) ↔ IrqsAgree kinds := by
  have hirqs : devs.map Prod.snd = irqsFrom 5 kinds.length := by
    have hsnd := congrArg (List.map Prod.snd) h
    have hlen : (irqsFrom 5 kinds.length).length = (kinds.map DeviceKind.window).length := by
      rw [List.length_map, length_irqsFrom]
    rw [List.map_map, List.map_snd_zip (Nat.le_of_eq hlen)] at hsnd
    exact hsnd
  have hann : (∀ x ∈ devs, announcedIrq kernelCmdline x.1.baseAddr = some x.2.toNat) ↔
      ∀ x ∈ kinds.zip (irqsFrom 5 kinds.length), x.1.announcedIrq = x.2 := by
    have hbase : (∀ x ∈ devs, announcedIrq kernelCmdline x.1.baseAddr = some x.2.toNat) ↔
        ∀ y ∈ devs.map (fun x => (x.1.window, x.2)),
          announcedIrq kernelCmdline y.1.base = some y.2.toNat := by
      rw [List.forall_mem_map]
      rfl
    rw [hbase, h, List.zip_map_left, List.forall_mem_map]
    simp only [Prod.map_fst, Prod.map_snd, id_eq, DeviceKind.window,
      announcedIrq_kernelCmdline, Option.some.injEq, UInt32.toNat_inj]
  rw [hann, hirqs, IrqsAgree]

/-- **When the IRQs announced are the IRQs assigned**: after the calls of `main`, all
successful, and a successful `load_kernel`, the command line in guest memory announces for
every device the IRQ it was given, and no two devices share one, exactly when there is no
network without a disk, and no shared directory without both or beside another. -/
theorem irqs_announced_iff {kvmHost : KvmHost V} {numCpus : UInt32}
    {vm vm₁ vm₂ : VirtualMachine V Q F S} {calls : List (AttachHost F S × AttachCall)}
    {rs : List (Except HypervisorError Unit)} {fileName : String → Option String}
    {args : Args} {files : KernelFiles}
    (hnew : VirtualMachine.new vmm kvmHost numCpus = .ok vm)
    (hmain : args.steps fileName = calls.map fun call => .attach call.2)
    (hcalls : vm.attachSeq vq calls = (vm₁, rs)) (hok : ∀ r ∈ rs, r = .ok ())
    (hload : vm₁.loadKernel vmm kvm files args.kernel = (vm₂, .ok ())) :
    ∃ loader, vm₂.kernelLoader = some loader ∧
      slice vm₂.memory.memory.bytes cmdlineAddr (cmdlineBytes loader.cmdline).length =
        cmdlineBytes loader.cmdline ∧
      vm₂.devices = (vm.assignments vq calls).map Prod.fst ∧
      (((∀ x ∈ vm.assignments vq calls,
            announcedIrq loader.cmdline x.1.baseAddr = some x.2.toNat) ∧
          ((vm.assignments vq calls).map Prod.snd).Nodup) ↔ args.InOrder) := by
  obtain ⟨-, -, hnone, hirq, -⟩ := VirtualMachine.new_spec hnew
  obtain ⟨hdev, hassign⟩ := VirtualMachine.assignments_of_ok hcalls hok
  obtain ⟨buffer, elf, -, -, hbytes, -, hloader, hdev₂⟩ := VirtualMachine.loadKernel_ok hload
  refine ⟨_, hloader, ?_, ?_, ?_⟩
  · rw [hbytes]
    exact slice_loadedBlocks_cmdline _ _ _ _
  · rw [hdev₂, hdev, hnone, List.nil_append]
  · rw [← args.irqsAgree_iff, ← Args.kinds_of_steps hmain]
    apply announced_iff_irqsAgree
    rw [hassign, hirq, List.map_map, List.length_map]
    rfl

/-- A console and a disk. -/
theorem irqs_announced_disk :
    ∃ vm vm₁ vm₂ : VirtualMachine PlainVcpu ScriptedQueue DiskFile Unit,
      VirtualMachine.new VmMemory.mmap KvmHost.plain 1 = .ok vm ∧
      vm.attachSeq ScriptedQueue.queue
          [(AttachHost.plain, .console), (AttachHost.plain, .block "disk.img" false)] =
        (vm₁, [.ok (), .ok ()]) ∧
      vm₁.loadKernel VmMemory.mmap PlainVcpu.kvm KernelFiles.twoBytes "vmlinux" = (vm₂, .ok ()) ∧
      ∃ loader, vm₂.kernelLoader = some loader ∧
        ∀ x ∈ vm.assignments ScriptedQueue.queue
          [(AttachHost.plain, .console), (AttachHost.plain, .block "disk.img" false)],
          announcedIrq loader.cmdline x.1.baseAddr = some x.2.toNat := by
  obtain ⟨vm, hnew⟩ := VirtualMachine.new_plain
  obtain ⟨hL, -⟩ := VirtualMachine.new_spec hnew
  obtain ⟨vm₁, hcalls⟩ := vm.attachSeq_plain [.console, .block "disk.img" false]
  obtain ⟨-, -, -, hmem⟩ := VirtualMachine.attachSeq_spec hcalls
  rw [← hmem] at hL
  obtain ⟨vm₂, hload⟩ := VirtualMachine.loadKernel_twoBytes VmMemory.mmap "vmlinux" hL
  have hmain : Args.steps some { Args.plain with disk := some "disk.img" } =
      ([.console, .block "disk.img" false].map fun call => (AttachHost.plain, call)).map
        fun call => .attach call.2 := rfl
  obtain ⟨loader, hloader, -, -, hiff⟩ :=
    irqs_announced_iff hnew hmain hcalls (by decide) hload
  have hagree := hiff.mpr ⟨fun h => (nomatch h), Or.inl rfl⟩
  exact ⟨vm, vm₁, vm₂, hnew, hcalls, hload, loader, hloader, hagree.1⟩

/-- A network without a disk: the device at `0x3000` is given IRQ 6, and 7 is announced. -/
theorem net_irq_not_announced :
    ∃ vm vm₁ vm₂ : VirtualMachine PlainVcpu ScriptedQueue DiskFile Unit,
      VirtualMachine.new VmMemory.mmap KvmHost.plain 1 = .ok vm ∧
      Args.steps some
          { Args.plain with net := some "127.0.0.1:5000", peer := some "127.0.0.1:5001" } =
        [.attach .console, .attach (.net "127.0.0.1:5000" "127.0.0.1:5001")] ∧
      vm.attachSeq ScriptedQueue.queue
          [(AttachHost.plain, .console),
            (AttachHost.plain, .net "127.0.0.1:5000" "127.0.0.1:5001")] =
        (vm₁, [.ok (), .ok ()]) ∧
      vm₁.loadKernel VmMemory.mmap PlainVcpu.kvm KernelFiles.twoBytes "vmlinux" = (vm₂, .ok ()) ∧
      ∃ loader, vm₂.kernelLoader = some loader ∧
        ∃ x ∈ vm.assignments ScriptedQueue.queue
          [(AttachHost.plain, .console),
            (AttachHost.plain, .net "127.0.0.1:5000" "127.0.0.1:5001")],
          x.1.baseAddr = 0x3000 ∧ x.2 = 6 ∧ announcedIrq loader.cmdline 0x3000 = some 7 := by
  obtain ⟨vm, hnew⟩ := VirtualMachine.new_plain
  obtain ⟨hL, -, -, hirq, -⟩ := VirtualMachine.new_spec hnew
  obtain ⟨vm₁, hcalls⟩ :=
    vm.attachSeq_plain [.console, .net "127.0.0.1:5000" "127.0.0.1:5001"]
  obtain ⟨-, -, -, hmem⟩ := VirtualMachine.attachSeq_spec hcalls
  obtain ⟨-, hassign⟩ := VirtualMachine.assignments_of_ok hcalls (by decide)
  rw [← hmem] at hL
  obtain ⟨vm₂, hload⟩ := VirtualMachine.loadKernel_twoBytes VmMemory.mmap "vmlinux" hL
  obtain ⟨buffer, elf, -, -, -, -, hloader, -⟩ := VirtualMachine.loadKernel_ok hload
  refine ⟨vm, vm₁, vm₂, hnew, rfl, hcalls, hload, _, hloader, ?_⟩
  have hnet : (DeviceKind.net.window, 6) ∈
      (vm.assignments ScriptedQueue.queue [(AttachHost.plain, .console),
        (AttachHost.plain, .net "127.0.0.1:5000" "127.0.0.1:5001")]).map
          fun x => (x.1.window, x.2) := by
    refine hassign.symm ▸ ?_
    rw [hirq]
    decide
  obtain ⟨x, hx, hxw⟩ := List.mem_map.mp hnet
  obtain ⟨hwin, hirq'⟩ := Prod.mk.inj hxw
  have hann : announcedIrq kernelCmdline 0x3000 = some 7 :=
    announcedIrq_kernelCmdline DeviceKind.net
  exact ⟨x, hx, congrArg MmioWindow.base hwin, hirq', hann⟩

end MoVm
