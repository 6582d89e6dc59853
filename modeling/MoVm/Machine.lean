import MoVm.Devices
import MoVm.KernelLoader
import MoVm.Lib.Trace
import MoVm.Vcpu

/-!
# The Virtual Machine and Its Devices

The model of `VirtualMachine` in `vm.rs`, as far as it is built up before the guest runs:
`new`, which maps guest memory and registers it with KVM, and the four `add_virtio_*`
methods. Each of these allocates an IRQ, constructs its device and pushes it behind a
window at a base address of its own; `attachAt` is what they share, and the IRQ is used up
even when the construction fails.

`attachSeq` runs any sequence of such calls. `attach_cases` says once what a call can do,
and `attachSeq_spec` adds it up over a sequence.

## Main results

* `windows_outside_ram_iff`: the windows lie outside the memory registered with KVM only
  as long as no device has been attached.
* `windows_disjoint_iff`: the windows are pairwise disjoint, and every address is delivered
  to at most one device, exactly when no kind of device was attached twice.
* `failed_attach_unchanged_iff`: a call that fails keeps the IRQ it took, so failures leave the
  machine as it was exactly when there are none.
-/

open Lib

namespace MoVm

/-! ### The machine -/

/-- The KVM calls of `VirtualMachine::new`. -/
structure KvmHost (V : Type) where
  /-- `Kvm::new`. -/
  openKvm : Except String Unit
  createVm : Except String Unit
  createIrqChip : Except String Unit
  createPit2 : Except String Unit
  setUserMemoryRegion : KvmUserspaceMemoryRegion → Except String Unit
  createVcpu : UInt64 → Except String V
  /-- `Kvm::new` and `create_vm` again, in `clone_vmfd`. -/
  cloneVmFd : Except String Unit

/-- The machine. Of the VM file descriptor it keeps the memory slots registered with it. -/
structure VirtualMachine (V Q F S : Type) where
  slots : List KvmUserspaceMemoryRegion
  vcpus : List (Vcpu V)
  memory : GuestMemoryRegions
  kernelLoader : Option KernelLoader
  devices : List (VirtioMmioDevice Q F S)
  nextIrq : UInt32

variable {V Q C F S : Type} (vmm : VmMemory) (vq : VirtioQueue Q C)

/-- `VirtualMachine::new`. -/
def VirtualMachine.new (kvmHost : KvmHost V) (numCpus : UInt32) :
    Except HypervisorError (VirtualMachine V Q F S) := do
  kvmHost.openKvm.mapError .kvmError
  kvmHost.createVm.mapError .kvmError
  kvmHost.createIrqChip.mapError .kvmError
  kvmHost.createPit2.mapError .kvmError
  let memory ← GuestMemoryRegions.new vmm
  let slots ← memory.setupMemoryRegion kvmHost.setUserMemoryRegion
  let vcpus ← (List.range numCpus.toNat).mapM fun i => do
    let fd ← (kvmHost.createVcpu (UInt64.ofNat i)).mapError .kvmError
    return { fd, id := UInt64.ofNat i }
  kvmHost.cloneVmFd.mapError .ioError
  return { slots, vcpus, memory, kernelLoader := none, devices := [], nextIrq := 5 }

/-! ### Attaching devices -/

/-- `allocate_irq`: IRQs are handed out in order. -/
def VirtualMachine.allocateIrq (vm : VirtualMachine V Q F S) :
    VirtualMachine V Q F S × UInt32 :=
  ({ vm with nextIrq := vm.nextIrq + 1 }, vm.nextIrq)

/-- The common shape of the `add_virtio_*` methods: allocate an IRQ, construct the device,
push it behind a window at `base`. -/
def VirtualMachine.attachAt (vm : VirtualMachine V Q F S) (base : UInt64)
    (construct : GuestMemory → UInt32 → Except HypervisorError (VirtioDevice Q F S)) :
    VirtualMachine V Q F S × Except HypervisorError Unit :=
  let (vm, irq) := vm.allocateIrq
  match construct vm.memory.memory irq with
  | .error e => (vm, .error e)
  | .ok device => ({ vm with devices := vm.devices ++ [.new device base] }, .ok ())

variable (host : AttachHost F S)

def VirtualMachine.addVirtioConsole (vm : VirtualMachine V Q F S) :
    VirtualMachine V Q F S × Except HypervisorError Unit :=
  vm.attachAt 0x1000 fun mem irq => do
    return .console (← VirtioConsole.new vq host mem 0x1000 irq)

def VirtualMachine.addVirtioBlock (vm : VirtualMachine V Q F S) (diskPath : String)
    (readOnly : Bool) : VirtualMachine V Q F S × Except HypervisorError Unit :=
  vm.attachAt 0x2000 fun mem irq => do
    return .block
      (← VirtioBlock.new host.disk vq (host.eventFdNew 0) mem 0x2000 irq diskPath readOnly)

/-- The peer address is checked and then dropped. -/
def VirtualMachine.addVirtioNet (vm : VirtualMachine V Q F S) (localAddr peerAddr : String) :
    VirtualMachine V Q F S × Except HypervisorError Unit :=
  vm.attachAt 0x3000 fun mem irq => do
    (host.parseSocketAddr localAddr).mapError fun e =>
      .networkError ("Invalid local address: " ++ e)
    (host.parseSocketAddr peerAddr).mapError fun e =>
      .networkError ("Invalid peer address: " ++ e)
    return .net (← VirtioNet.new vq host mem 0x3000 irq localAddr none)

/-- The IRQ is allocated but not handed to the device. -/
def VirtualMachine.addVirtioFs (vm : VirtualMachine V Q F S) (_tag : String)
    (sharedDir : String) (_readonly : Bool) :
    VirtualMachine V Q F S × Except HypervisorError Unit :=
  vm.attachAt 0x4000 fun mem _irq => do
    let queueEvt ← (host.eventFdNew 0).mapError fun e =>
      .ioError ("Failed to create EventFd: " ++ e)
    return .fs (← VirtioFs.new host sharedDir mem queueEvt)

/-- A call of one of the four methods. -/
inductive AttachCall
  | console
  | block (diskPath : String) (readOnly : Bool)
  | net (localAddr peerAddr : String)
  | fs (tag sharedDir : String) (readonly : Bool)
deriving DecidableEq

def VirtualMachine.attach (vm : VirtualMachine V Q F S) :
    AttachCall → VirtualMachine V Q F S × Except HypervisorError Unit
  | .console => vm.addVirtioConsole vq host
  | .block diskPath readOnly => vm.addVirtioBlock vq host diskPath readOnly
  | .net localAddr peerAddr => vm.addVirtioNet vq host localAddr peerAddr
  | .fs tag sharedDir readonly => vm.addVirtioFs host tag sharedDir readonly

/-- The four methods. -/
inductive DeviceKind
  | console
  | block
  | net
  | fs
deriving DecidableEq

def AttachCall.kind : AttachCall → DeviceKind
  | .console => .console
  | .block _ _ => .block
  | .net _ _ => .net
  | .fs _ _ _ => .fs

/-- The base address of the devices of a kind. -/
def DeviceKind.base : DeviceKind → UInt64
  | .console => 0x1000
  | .block => 0x2000
  | .net => 0x3000
  | .fs => 0x4000

/-- A sequence of calls, each on the host as it is then: the machine afterwards, and the
results. -/
def VirtualMachine.attachSeq (vm : VirtualMachine V Q F S) :
    List (AttachHost F S × AttachCall) →
      VirtualMachine V Q F S × List (Except HypervisorError Unit)
  | [] => (vm, [])
  | (host, call) :: calls =>
      let (vm, r) := vm.attach vq host call
      let (vm, rs) := vm.attachSeq calls
      (vm, r :: rs)

/-- The devices the dispatch loop of `run` hands an MMIO exit at this address: it does not
stop at the first match. -/
def VirtualMachine.dispatch (vm : VirtualMachine V Q F S) (addr : UInt64) :
    List (VirtioMmioDevice Q F S) :=
  vm.devices.filter fun dev => dev.window.Contains addr

/-! ### What a new machine is -/

variable {vmm vq}

/-- The slots registered with KVM are the regions of guest memory. -/
theorem GuestMemoryRegions.setupMemoryRegion_ok {g : GuestMemoryRegions}
    {setUserMemoryRegion : KvmUserspaceMemoryRegion → Except String Unit}
    {slots : List KvmUserspaceMemoryRegion}
    (h : g.setupMemoryRegion setUserMemoryRegion = .ok slots) :
    slots.map (fun k => (k.guestPhysAddr, k.memorySize)) =
      g.memory.layout.regions.map fun r => (r.start, r.len) := by
  have hslots : slots.map (fun k => (k.guestPhysAddr, k.memorySize)) =
      g.memory.layout.regions.zipIdx.map fun x => (x.1.start, x.1.len) := by
    refine map_of_mapM_ok (fun x k hk => ?_) h
    obtain ⟨r, slot⟩ := x
    simp only at hk
    split at hk
    · cases hk
    · obtain rfl := Except.ok.inj hk
      rfl
  rw [hslots, ← List.zipIdx_map_fst 0 g.memory.layout.regions, List.map_map,
    List.zipIdx_map_fst]
  rfl

/-- A new machine has the vCPUs asked for and no devices, hands out IRQ 5 first, and its
memory is `[0, 128 MB)`, registered as one slot. -/
theorem VirtualMachine.new_spec {kvmHost : KvmHost V} {numCpus : UInt32}
    {vm : VirtualMachine V Q F S} (h : VirtualMachine.new vmm kvmHost numCpus = .ok vm) :
    vm.memory.memory.layout.regions.map (fun r => (r.start, r.len)) = [(0, memorySize)] ∧
      vm.slots.map (fun k => (k.guestPhysAddr, k.memorySize)) = [(0, memorySize)] ∧
      vm.devices = [] ∧ vm.nextIrq = 5 ∧ vm.vcpus.length = numCpus.toNat := by
  simp only [VirtualMachine.new, bind_ok_iff] at h
  obtain ⟨-, -, -, -, -, -, -, -, memory, hmem, slots, hslots, vcpus, hvcpus, -, -, hvm⟩ := h
  obtain rfl := Except.ok.inj hvm
  have hregions := GuestMemoryRegions.new_regions hmem
  have hlen := (mapM_ok_iff.mp hvcpus).length_eq
  rw [List.length_range] at hlen
  exact ⟨hregions, (memory.setupMemoryRegion_ok hslots).trans hregions, rfl, rfl, hlen.symm⟩

/-! ### What the calls do -/

/-- The machine after a call that failed: one IRQ is used up. -/
def VirtualMachine.skipIrq (vm : VirtualMachine V Q F S) : VirtualMachine V Q F S :=
  { vm with nextIrq := vm.nextIrq + 1 }

/-- The machine after a call that attached a device. -/
def VirtualMachine.push (vm : VirtualMachine V Q F S) (dev : VirtioMmioDevice Q F S) :
    VirtualMachine V Q F S :=
  { vm with nextIrq := vm.nextIrq + 1, devices := vm.devices ++ [dev] }

theorem VirtualMachine.attachAt_cases (vm : VirtualMachine V Q F S) (base : UInt64)
    (construct : GuestMemory → UInt32 → Except HypervisorError (VirtioDevice Q F S)) :
    (∃ device, vm.attachAt base construct = (vm.push (.new device base), .ok ())) ∨
      ∃ e, vm.attachAt base construct = (vm.skipIrq, .error e) := by
  simp only [attachAt, allocateIrq]
  cases construct vm.memory.memory vm.nextIrq with
  | error e => exact .inr ⟨e, rfl⟩
  | ok device => exact .inl ⟨device, rfl⟩

/-- What a call can do: push a device at the base address of its kind, or fail. Either way
one IRQ is used up, and nothing else changes. -/
theorem VirtualMachine.attach_cases (vq : VirtioQueue Q C) (vm : VirtualMachine V Q F S)
    (host : AttachHost F S) (call : AttachCall) :
    (∃ device, vm.attach vq host call = (vm.push (.new device call.kind.base), .ok ())) ∨
      ∃ e, vm.attach vq host call = (vm.skipIrq, .error e) := by
  cases call with
  | console =>
      rw [attach, addVirtioConsole]
      exact vm.attachAt_cases _ _
  | block diskPath readOnly =>
      rw [attach, addVirtioBlock]
      exact vm.attachAt_cases _ _
  | net localAddr peerAddr =>
      rw [attach, addVirtioNet]
      exact vm.attachAt_cases _ _
  | fs tag sharedDir readonly =>
      rw [attach, addVirtioFs]
      exact vm.attachAt_cases _ _

/-- The calls of a sequence that succeeded. -/
def succeeded : List (AttachHost F S × AttachCall) → List (Except HypervisorError Unit) →
    List AttachCall
  | (_, call) :: calls, .ok () :: rs => call :: succeeded calls rs
  | _ :: calls, .error _ :: rs => succeeded calls rs
  | _, _ => []

/-- The window of the devices of a kind. -/
def DeviceKind.window (kind : DeviceKind) : MmioWindow where
  base := kind.base
  size := 0x1000

/-- **What a sequence of calls does**: the devices are pushed in order, one for each call
that succeeded, and the rest of the machine stays as it is. -/
theorem VirtualMachine.attachSeq_spec {vm vm' : VirtualMachine V Q F S}
    {calls : List (AttachHost F S × AttachCall)} {rs : List (Except HypervisorError Unit)}
    (h : vm.attachSeq vq calls = (vm', rs)) :
    vm'.devices.map (·.window) = vm.devices.map (·.window) ++
        (succeeded calls rs).map (fun call => call.kind.window) ∧
      rs.length = calls.length ∧ vm'.slots = vm.slots ∧ vm'.memory = vm.memory := by
  induction calls generalizing vm vm' rs with
  | nil =>
      obtain ⟨rfl, rfl⟩ := Prod.mk.inj h
      exact ⟨(List.append_nil _).symm, rfl, rfl, rfl⟩
  | cons step calls ih =>
      obtain ⟨host, call⟩ := step
      simp only [attachSeq] at h
      rcases vm.attach_cases vq host call with ⟨device, hcall⟩ | ⟨e, hcall⟩
      · rw [hcall] at h
        rcases hrest : (vm.push (.new device call.kind.base)).attachSeq vq calls with ⟨vm₁, rs₁⟩
        rw [hrest] at h
        obtain ⟨rfl, rfl⟩ := Prod.mk.inj h
        obtain ⟨hdev, hlen, hrest⟩ := ih hrest
        refine ⟨?_, congrArg (· + 1) hlen, hrest⟩
        rw [hdev, push, List.map_append, List.append_assoc]
        rfl
      · rw [hcall] at h
        rcases hrest : vm.skipIrq.attachSeq vq calls with ⟨vm₁, rs₁⟩
        rw [hrest] at h
        obtain ⟨rfl, rfl⟩ := Prod.mk.inj h
        obtain ⟨hdev, hlen, hrest⟩ := ih hrest
        exact ⟨hdev, congrArg (· + 1) hlen, hrest⟩

theorem succeeded_of_ok {calls : List (AttachHost F S × AttachCall)}
    {rs : List (Except HypervisorError Unit)} (hlen : rs.length = calls.length)
    (hok : ∀ r ∈ rs, r = .ok ()) : succeeded calls rs = calls.map Prod.snd := by
  induction rs generalizing calls with
  | nil =>
      obtain rfl := List.length_eq_zero_iff.mp hlen.symm
      rfl
  | cons r rs ih =>
      obtain _ | ⟨⟨host, call⟩, calls⟩ := calls
      · cases hlen
      obtain ⟨rfl, hrest⟩ := List.forall_mem_cons.mp hok
      rw [succeeded, ih (Nat.succ.inj hlen) hrest, List.map_cons]

/-! ### A plain host -/

/-- A host on which every KVM call succeeds. -/
def KvmHost.plain : KvmHost PlainVcpu where
  openKvm := .ok ()
  createVm := .ok ()
  createIrqChip := .ok ()
  createPit2 := .ok ()
  setUserMemoryRegion _ := .ok ()
  createVcpu _ := .ok default
  cloneVmFd := .ok ()

/-- A host on which every device can be constructed, with an empty disk image. -/
def AttachHost.plain : AttachHost DiskFile Unit where
  disk := DiskFile.host []
  eventFdNew _ := .ok ⟨0⟩
  parseSocketAddr _ := .ok ()
  bind _ := .ok ()
  setNonblocking _ := .ok ()
  getrandom := .ok (Vector.replicate 6 0)
  pathExists _ := true
  createDirAll _ := .ok ()
  metadata _ := .ok (0, 0)

/-- The same host without any directory to share, and where none can be made. -/
def AttachHost.readOnly : AttachHost DiskFile Unit :=
  { AttachHost.plain with
    pathExists := fun _ => false
    createDirAll := fun _ => .error "Read-only file system (os error 30)" }

/-- The machine with one vCPU that is created on the plain host. -/
theorem VirtualMachine.new_plain :
    ∃ vm : VirtualMachine PlainVcpu ScriptedQueue DiskFile Unit,
      VirtualMachine.new VmMemory.mmap KvmHost.plain 1 = .ok vm :=
  ⟨_, rfl⟩

/-- On the plain host every call succeeds. -/
theorem VirtualMachine.attach_plain
    (vm : VirtualMachine PlainVcpu ScriptedQueue DiskFile Unit) (call : AttachCall) :
    ∃ vm', vm.attach ScriptedQueue.queue AttachHost.plain call = (vm', .ok ()) := by
  cases call with
  | console => exact ⟨_, rfl⟩
  | block diskPath readOnly => cases readOnly <;> exact ⟨_, rfl⟩
  | net localAddr peerAddr => exact ⟨_, rfl⟩
  | fs tag sharedDir readonly => exact ⟨_, rfl⟩

theorem VirtualMachine.attachSeq_plain
    (vm : VirtualMachine PlainVcpu ScriptedQueue DiskFile Unit) (calls : List AttachCall) :
    ∃ vm', vm.attachSeq ScriptedQueue.queue (calls.map fun call => (AttachHost.plain, call)) =
      (vm', calls.map fun _ => .ok ()) := by
  induction calls generalizing vm with
  | nil => exact ⟨vm, rfl⟩
  | cons call calls ih =>
      obtain ⟨vm₁, hcall⟩ := vm.attach_plain call
      obtain ⟨vm₂, hrest⟩ := ih vm₁
      exact ⟨vm₂, by simp only [List.map_cons, attachSeq, hcall, hrest]⟩

/-! ### Which calls succeed -/

/-- The host gives a call everything its device is made of: nothing for the console, the disk
image and its size, two addresses, a socket and random bytes, or the shared directory and three
event file descriptors. -/
def AttachHost.Grants (host : AttachHost F S) : AttachCall → Prop
  | .console => True
  | .block diskPath readOnly => ∃ file size,
      (if readOnly then host.disk.openRead diskPath else host.disk.openReadWrite diskPath) =
        .ok file ∧ host.disk.metadataLen file = .ok size
  | .net localAddr peerAddr =>
      host.parseSocketAddr localAddr = .ok () ∧ host.parseSocketAddr peerAddr = .ok () ∧
        ∃ socket socket' mac, host.bind localAddr = .ok socket ∧
          host.setNonblocking socket = .ok socket' ∧ host.getrandom = .ok mac
  | .fs _ sharedDir _ =>
      (host.pathExists sharedDir = false → host.createDirAll sharedDir = .ok ()) ∧
        ∃ evt evt0 evt1 owner, host.eventFdNew 0 = .ok evt ∧ host.eventFdNew 1 = .ok evt0 ∧
          host.eventFdNew 2 = .ok evt1 ∧ host.metadata sharedDir = .ok owner

theorem VirtioBlock.new_ok_iff {hf : HostFile F} {eventFdNew : Except String EventFd}
    {mem : GuestMemory} {guestMem : UInt64} {irq : UInt32} {diskPath : String} {readOnly : Bool} :
    (∃ dev, VirtioBlock.new hf vq eventFdNew mem guestMem irq diskPath readOnly = .ok dev) ↔
      ∃ file size, (if readOnly then hf.openRead diskPath else hf.openReadWrite diskPath) =
        .ok file ∧ hf.metadataLen file = .ok size := by
  rw [VirtioBlock.new]
  constructor
  · rintro ⟨dev, h⟩
    split at h
    · cases h
    · next file hfile =>
        split at h
        · cases h
        · next size hsize => exact ⟨file, size, hfile, hsize⟩
  · rintro ⟨file, size, hfile, hsize⟩
    rw [hfile]
    simp only [hsize]
    exact ⟨_, rfl⟩

theorem VirtualMachine.attachAt_ok_iff (vm : VirtualMachine V Q F S) (base : UInt64)
    (construct : GuestMemory → UInt32 → Except HypervisorError (VirtioDevice Q F S)) :
    (vm.attachAt base construct).2 = .ok () ↔
      ∃ device, construct vm.memory.memory vm.nextIrq = .ok device := by
  simp only [attachAt, allocateIrq]
  cases construct vm.memory.memory vm.nextIrq with
  | error e => simp only [reduceCtorEq, exists_false]
  | ok device => exact ⟨fun _ => ⟨device, rfl⟩, fun _ => rfl⟩

/-- A call succeeds exactly when the host grants it what it asks for. -/
theorem VirtualMachine.attach_ok_iff (vq : VirtioQueue Q C) (vm : VirtualMachine V Q F S)
    (host : AttachHost F S) (call : AttachCall) :
    (vm.attach vq host call).2 = .ok () ↔ host.Grants call := by
  cases call with
  | console =>
      rw [attach, addVirtioConsole, attachAt_ok_iff]
      exact ⟨fun _ => trivial, fun _ => ⟨_, rfl⟩⟩
  | block diskPath readOnly =>
      rw [attach, addVirtioBlock, attachAt_ok_iff, AttachHost.Grants, ← VirtioBlock.new_ok_iff]
      simp only [bind_ok_iff]
      exact ⟨fun ⟨_, dev, h, _⟩ => ⟨dev, h⟩, fun ⟨dev, h⟩ => ⟨_, dev, h, rfl⟩⟩
  | net localAddr peerAddr =>
      rw [attach, addVirtioNet, attachAt_ok_iff, AttachHost.Grants]
      simp only [bind_ok_iff, VirtioNet.new, mapError_ok_iff]
      constructor
      · rintro ⟨_, _, hlocal, _, hpeer, _, ⟨socket, hbind, socket', hset, mac, hmac, _⟩, _⟩
        exact ⟨hlocal, hpeer, socket, socket', mac, hbind, hset, hmac⟩
      · rintro ⟨hlocal, hpeer, socket, socket', mac, hbind, hset, hmac⟩
        exact ⟨_, _, hlocal, _, hpeer, _, ⟨socket, hbind, socket', hset, mac, hmac, rfl⟩, rfl⟩
  | fs tag sharedDir readonly =>
      rw [attach, addVirtioFs, attachAt_ok_iff, AttachHost.Grants]
      simp only [bind_ok_iff, VirtioFs.new, FsState.new_ok_iff, mapError_ok_iff]
      constructor
      · rintro ⟨_, evt, hevt, _, ⟨_, ⟨hdir, _, hmeta, _⟩, evt0, hevt0, evt1, hevt1, _⟩, _⟩
        exact ⟨hdir, evt, evt0, evt1, _, hevt, hevt0, hevt1, hmeta⟩
      · rintro ⟨hdir, evt, evt0, evt1, owner, hevt, hevt0, hevt1, hmeta⟩
        exact ⟨_, evt, hevt, _, ⟨_, ⟨hdir, owner, hmeta, rfl⟩, evt0, hevt0, evt1, hevt1, rfl⟩, rfl⟩

section New

variable {kvmHost : KvmHost V} {numCpus : UInt32} {vm vm' : VirtualMachine V Q F S}
  {calls : List (AttachHost F S × AttachCall)} {rs : List (Except HypervisorError Unit)}

/-- The windows of a machine that was new before the calls. -/
theorem VirtualMachine.windows_of_new
    (hnew : VirtualMachine.new vmm kvmHost numCpus = .ok vm)
    (hcalls : vm.attachSeq vq calls = (vm', rs)) :
    vm'.devices.map (·.window) = (succeeded calls rs).map fun call => call.kind.window := by
  obtain ⟨-, -, hdev, -⟩ := VirtualMachine.new_spec hnew
  obtain ⟨hwin, -⟩ := VirtualMachine.attachSeq_spec hcalls
  rw [hwin, hdev, List.map_nil, List.nil_append]

/-- The page number of a window. -/
def DeviceKind.page : DeviceKind → ℕ
  | .console => 1
  | .block => 2
  | .net => 3
  | .fs => 4

theorem DeviceKind.page_inj {kind kind' : DeviceKind} (h : kind.page = kind'.page) :
    kind = kind' := by
  cases kind <;> cases kind' <;> first | rfl | cases h

/-- A window is one page of guest addresses. -/
theorem DeviceKind.window_contains_iff (kind : DeviceKind) (addr : UInt64) :
    kind.window.Contains addr ↔ addr.toNat / 0x1000 = kind.page := by
  have hbase : kind.base.toNat = 0x1000 * kind.page := by cases kind <;> rfl
  have hend : (kind.base + 0x1000).toNat = 0x1000 * (kind.page + 1) := by cases kind <;> rfl
  simp only [MmioWindow.Contains, window, ge_iff_le, UInt64.le_iff_toNat_le,
    UInt64.lt_iff_toNat_lt, hbase, hend]
  omega

/-- Windows of different kinds are disjoint, those of the same kind are not. -/
theorem DeviceKind.window_disjoint_iff (kind kind' : DeviceKind) :
    kind.window.Disjoint kind'.window ↔ kind ≠ kind' := by
  simp only [MmioWindow.Disjoint, window_contains_iff]
  constructor
  · rintro hdis rfl
    have hbase : kind.base.toNat / 0x1000 = kind.page := by cases kind <;> rfl
    exact hdis kind.base ⟨hbase, hbase⟩
  · rintro hne addr ⟨h, h'⟩
    exact hne (page_inj (h.symm.trans h'))

/-- How many devices an exit is delivered to depends on the windows only. -/
theorem VirtualMachine.length_dispatch (vm : VirtualMachine V Q F S) (addr : UInt64) :
    (vm.dispatch addr).length =
      ((vm.devices.map (·.window)).filter fun w => w.Contains addr).length := by
  rw [List.filter_map, List.length_map]
  rfl

/-- With disjoint windows, an exit is delivered to at most one device. -/
theorem VirtualMachine.length_dispatch_le_one
    (h : vm.devices.Pairwise fun dev dev' => dev.window.Disjoint dev'.window)
    (addr : UInt64) : (vm.dispatch addr).length ≤ 1 := by
  have hpair := h.filter fun dev => decide (dev.window.Contains addr)
  rcases hd : vm.dispatch addr with _ | ⟨dev, _ | ⟨dev', rest⟩⟩
  · exact Nat.zero_le 1
  · exact Nat.le_refl 1
  · have hin : ∀ d ∈ vm.dispatch addr, d.window.Contains addr := fun d hd =>
      of_decide_eq_true (List.mem_filter.mp hd).2
    rw [dispatch] at hd hin
    rw [hd] at hpair hin
    have hdis := List.rel_of_pairwise_cons hpair List.mem_cons_self
    exact absurd ⟨hin dev List.mem_cons_self,
      hin dev' (List.mem_cons_of_mem _ List.mem_cons_self)⟩ (hdis addr)

/-- **When each address belongs to one device**: after a sequence of successful calls on a
new machine, the windows are pairwise disjoint and every exit is delivered to at most one
device exactly when no method was called twice. -/
theorem windows_disjoint_iff (hnew : VirtualMachine.new vmm kvmHost numCpus = .ok vm)
    (hcalls : vm.attachSeq vq calls = (vm', rs)) (hok : ∀ r ∈ rs, r = .ok ()) :
    (vm'.devices.Pairwise (fun dev dev' => dev.window.Disjoint dev'.window) ∧
        ∀ addr, (vm'.dispatch addr).length ≤ 1) ↔
      (calls.map fun call => call.2.kind).Nodup := by
  have hwin := VirtualMachine.windows_of_new hnew hcalls
  obtain ⟨-, hlen, -⟩ := VirtualMachine.attachSeq_spec hcalls
  rw [succeeded_of_ok hlen hok, List.map_map] at hwin
  have hpair : vm'.devices.Pairwise (fun dev dev' => dev.window.Disjoint dev'.window) ↔
      (calls.map fun call => call.2.kind).Nodup := by
    rw [← List.pairwise_map (f := fun dev : VirtioMmioDevice Q F S => dev.window), hwin,
      List.pairwise_map, List.Nodup, List.pairwise_map]
    simp only [Function.comp_apply, DeviceKind.window_disjoint_iff]
  exact ⟨fun h => hpair.mp h.1, fun h =>
    ⟨hpair.mpr h, VirtualMachine.length_dispatch_le_one (hpair.mpr h)⟩⟩

theorem windows_disjoint_oneShare :
    ∃ vm vm' : VirtualMachine PlainVcpu ScriptedQueue DiskFile Unit,
      VirtualMachine.new VmMemory.mmap KvmHost.plain 1 = .ok vm ∧
      vm.attachSeq ScriptedQueue.queue
          [(AttachHost.plain, .console), (AttachHost.plain, .fs "shared" "/shared" false)] =
        (vm', [.ok (), .ok ()]) ∧
      ∀ addr, (vm'.dispatch addr).length ≤ 1 := by
  obtain ⟨vm, hnew⟩ := VirtualMachine.new_plain
  obtain ⟨vm', hcalls⟩ := vm.attachSeq_plain [.console, .fs "shared" "/shared" false]
  exact ⟨vm, vm', hnew, hcalls,
    ((windows_disjoint_iff hnew hcalls (by decide)).mpr (by decide)).2⟩

/-- Two shared directories: an access to the window of one reaches both. -/
theorem twoShares_collide :
    ∃ vm vm' : VirtualMachine PlainVcpu ScriptedQueue DiskFile Unit,
      VirtualMachine.new VmMemory.mmap KvmHost.plain 1 = .ok vm ∧
      vm.attachSeq ScriptedQueue.queue
          [(AttachHost.plain, .console), (AttachHost.plain, .fs "a" "/a" false),
            (AttachHost.plain, .fs "b" "/b" false)] = (vm', [.ok (), .ok (), .ok ()]) ∧
      ¬vm'.devices.Pairwise (fun dev dev' => dev.window.Disjoint dev'.window) ∧
      (vm'.dispatch 0x4000).length = 2 := by
  obtain ⟨vm, hnew⟩ := VirtualMachine.new_plain
  obtain ⟨vm', hcalls⟩ := vm.attachSeq_plain [.console, .fs "a" "/a" false, .fs "b" "/b" false]
  have hwin := VirtualMachine.windows_of_new hnew hcalls
  have htwo : (vm'.dispatch 0x4000).length = 2 := by
    rw [VirtualMachine.length_dispatch, hwin]
    rfl
  refine ⟨vm, vm', hnew, hcalls, fun hdis => ?_, htwo⟩
  have hone := VirtualMachine.length_dispatch_le_one hdis 0x4000
  omega

end New

/-! ### Calls that fail -/

/-- One call, as a step of a trace: the host as it is then and the method called, and the
result. -/
def AttachStep (vq : VirtioQueue Q C) (vm : VirtualMachine V Q F S)
    (request : AttachHost F S × AttachCall) (vm' : VirtualMachine V Q F S)
    (answer : Except HypervisorError Unit) : Prop :=
  vm.attach vq request.1 request.2 = (vm', answer)

/-- IRQs are handed out from 5 on, one for each device. -/
def VirtualMachine.CountsIrqs (vm : VirtualMachine V Q F S) : Prop :=
  vm.nextIrq = 5 + UInt32.ofNat vm.devices.length

/-- A call that attaches a device keeps the count of IRQs. -/
theorem VirtualMachine.CountsIrqs.push {vm : VirtualMachine V Q F S} (h : vm.CountsIrqs)
    (dev : VirtioMmioDevice Q F S) : (vm.push dev).CountsIrqs := by
  have hlen : (vm.devices ++ [dev]).length = vm.devices.length + 1 := List.length_append
  simp only [CountsIrqs, VirtualMachine.push] at h ⊢
  rw [h, hlen, UInt32.ofNat_add, UInt32.add_assoc]
  rfl

/-- Without failures the count of IRQs is kept along a trace. -/
theorem countsIrqs_of_granted {vm vm' : VirtualMachine V Q F S}
    {calls : List (VirtualMachine V Q F S × (AttachHost F S × AttachCall) ×
      Except HypervisorError Unit)} (htrace : Trace (AttachStep vq) vm calls vm')
    (hgrants : ∀ x ∈ calls, x.2.1.1.Grants x.2.1.2) (hcounts : vm.CountsIrqs) :
    vm'.CountsIrqs ∧ ∀ x ∈ calls, x.1.CountsIrqs := by
  induction htrace with
  | nil vm => exact ⟨hcounts, List.forall_mem_nil _⟩
  | @cons vm vm₁ _ request answer calls hcall _ ih =>
      obtain ⟨hgrant, hrest⟩ := List.forall_mem_cons.mp hgrants
      have hcounts₁ : vm₁.CountsIrqs := by
        rcases vm.attach_cases vq request.1 request.2 with ⟨device, h⟩ | ⟨e, h⟩
        · obtain ⟨rfl, -⟩ := Prod.mk.inj (hcall.symm.trans h)
          exact hcounts.push _
        · have hok := (vm.attach_ok_iff vq request.1 request.2).mpr hgrant
          rw [h] at hok
          cases hok
      obtain ⟨hlast, hcalls⟩ := ih hrest hcounts₁
      exact ⟨hlast, List.forall_mem_cons.mpr ⟨hcounts, hcalls⟩⟩

/-- **Calls that fail**: in every sequence of calls, the ones that fail leave the devices and the
next IRQ as they were, and a machine that has handed out one IRQ for each device still has, exactly
when the host grants every call what it asks for. Every call that fails has used up an IRQ. -/
theorem failed_attach_unchanged_iff {vm vm' : VirtualMachine V Q F S}
    {calls : List (VirtualMachine V Q F S × (AttachHost F S × AttachCall) ×
      Except HypervisorError Unit)} (htrace : Trace (AttachStep vq) vm calls vm') :
    ((∀ x ∈ calls, ∀ e t, x.2.2 = .error e → AttachStep vq x.1 x.2.1 t x.2.2 →
          t.devices = x.1.devices ∧ t.nextIrq = x.1.nextIrq) ∧
        (vm.CountsIrqs → vm'.CountsIrqs ∧ ∀ x ∈ calls, x.1.CountsIrqs)) ↔
      ∀ x ∈ calls, x.2.1.1.Grants x.2.1.2 := by
  constructor
  · rintro ⟨hsame, -⟩ x hx
    rw [← x.1.attach_ok_iff vq]
    rcases x.1.attach_cases vq x.2.1.1 x.2.1.2 with ⟨device, h⟩ | ⟨e, h⟩
    · rw [h]
    · -- the machine goes on with the next IRQ
      obtain ⟨t, ht⟩ := htrace.step_of_mem hx
      obtain ⟨rfl, hans⟩ := Prod.mk.inj (ht.symm.trans h)
      have hirq : x.1.nextIrq + 1 = x.1.nextIrq := (hsame x hx e _ hans ht).2
      exact absurd (UInt32.add_eq_left.mp hirq) (by decide)
  · intro hgrants
    refine ⟨fun x hx e t herr ht => ?_, countsIrqs_of_granted htrace hgrants⟩
    have hok := (x.1.attach_ok_iff vq _ _).mpr (hgrants x hx)
    rw [show x.1.attach vq x.2.1.1 x.2.1.2 = (t, x.2.2) from ht, herr] at hok
    cases hok

/-- A console and a disk, both granted. -/
theorem failed_attach_unchanged_granted :
    ∃ vm vm₁ vm₂ : VirtualMachine PlainVcpu ScriptedQueue DiskFile Unit,
      VirtualMachine.new VmMemory.mmap KvmHost.plain 1 = .ok vm ∧
      Trace (AttachStep ScriptedQueue.queue) vm
        [(vm, (AttachHost.plain, .console), .ok ()),
          (vm₁, (AttachHost.plain, .block "disk.img" false), .ok ())] vm₂ ∧
      vm₂.CountsIrqs := by
  obtain ⟨vm, hnew⟩ := VirtualMachine.new_plain
  obtain ⟨vm₁, hconsole⟩ := vm.attach_plain .console
  obtain ⟨vm₂, hblock⟩ := vm₁.attach_plain (.block "disk.img" false)
  have htrace : Trace (AttachStep ScriptedQueue.queue) vm
      [(vm, (AttachHost.plain, .console), .ok ()),
        (vm₁, (AttachHost.plain, .block "disk.img" false), .ok ())] vm₂ :=
    .cons hconsole (.cons hblock (.nil vm₂))
  have hgrants := (failed_attach_unchanged_iff htrace).mpr (List.forall_mem_cons.mpr
    ⟨trivial, List.forall_mem_singleton.mpr ⟨⟨[], 0⟩, 0, rfl, rfl⟩⟩)
  obtain ⟨-, -, hdev, hirq, -⟩ := VirtualMachine.new_spec hnew
  refine ⟨vm, vm₁, vm₂, hnew, htrace, (hgrants.2 ?_).1⟩
  rw [VirtualMachine.CountsIrqs, hdev, hirq]
  rfl

/-- A shared directory that cannot be made uses up IRQ 5, without any device. -/
theorem failed_share_keeps_irq :
    ∃ vm vm' : VirtualMachine PlainVcpu ScriptedQueue DiskFile Unit,
      VirtualMachine.new VmMemory.mmap KvmHost.plain 1 = .ok vm ∧
      vm.attach ScriptedQueue.queue AttachHost.readOnly (.fs "shared" "/shared" false) =
        (vm', .error (.ioError "Read-only file system (os error 30)")) ∧
      vm.nextIrq = 5 ∧ vm'.devices = [] ∧ vm'.nextIrq = 6 ∧ ¬vm'.CountsIrqs := by
  obtain ⟨vm, hnew⟩ := VirtualMachine.new_plain
  obtain ⟨-, -, hdev, hirq, -⟩ := VirtualMachine.new_spec hnew
  have hskip : vm.skipIrq.nextIrq = 6 := by
    rw [VirtualMachine.skipIrq, hirq]
    rfl
  refine ⟨vm, vm.skipIrq, hnew, rfl, hirq, hdev, hskip, ?_⟩
  rw [VirtualMachine.CountsIrqs, hskip, show vm.skipIrq.devices = [] from hdev]
  decide

end MoVm
