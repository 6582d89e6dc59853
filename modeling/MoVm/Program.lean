import MoVm.Bootloader
import MoVm.MachineDevices

/-!
# The Program

`main.rs` as a whole: create the machine, start it up, run it, and save a snapshot if one is asked
for. The phases are those of `Machine`, `Startup`, `Bootloader`, `MachineRun` and `SnapshotFormat`;
here they are one relation, `Main`, between the host's files before and after an invocation, since
`vm.run` may return in many states and may not return at all. The files are the contents of those
that snapshots are saved to and restored from. What else an invocation changes on the host are the
directories that it makes for `--share` (`Invocation.Makes`), and what its devices do with their
disk image and socket.

An invocation finds the files that earlier ones have left, so that a sequence of invocations is a
`Trace` of `Main`.

## Main results

* `main_restore_never_runs`: an invocation with `--restore-state` ends before any guest has run. It
  does not panic, changes no file, and makes no directory but those it is told to share.
* `main_ok`: what has happened when an invocation ends without an error.
* `main_files`: over any sequence of invocations, a file changes only when one of them saves to it
  after its guest has run.
-/

open Lib

namespace MoVm

variable {V Q C F S W X Y : Type}

/-! ### The run of a machine -/

/-- `vm.run` has returned, and this is what it leaves of the machine. The registers of the vCPUs
are what the guest has made of them. -/
def VirtualMachine.Ran (env : DeviceEnv Q C F S W) (kvm : KvmVcpu V)
    (vm vm' : VirtualMachine V Q F S) : Prop :=
  ∃ stdout calls s r vcpus,
    Trace (MachineState.Step env kvm)
      (.start vm.vcpus.length false vm.memory.memory vm.devices stdout) calls s ∧
    s.main = .returned r ∧ vcpus.map Vcpu.id = vm.vcpus.map Vcpu.id ∧
    vm' = { vm.withMemory s.memory with devices := s.devices, vcpus }

/-- `vm.run` has panicked. -/
def VirtualMachine.RunPanicked (env : DeviceEnv Q C F S W) (kvm : KvmVcpu V)
    (vm : VirtualMachine V Q F S) : Prop :=
  ∃ stdout calls s, Trace (MachineState.Step env kvm)
      (.start vm.vcpus.length false vm.memory.memory vm.devices stdout) calls s ∧
    s.mainPanicked = true

/-! ### `main` -/

/-- The options of an invocation, and the host it finds but for the snapshot files. -/
structure Invocation (V F S : Type) where
  args : Args
  cpus : UInt32
  bootloader : Option String
  saveState : Option String
  kvmHost : KvmHost V
  fileName : String → Option String
  hosts : ℕ → AttachHost F S
  kernels : KernelFiles

/-- How an invocation ends. -/
inductive ProgramEnd
  | ok
  | ended (e : MainEnd)

section

variable (vmm : VmMemory) (env : DeviceEnv Q C F S W) (kvm : KvmVcpu V) (files : SnapshotFiles X)
  (b : Bincode Y)

/-- What the startup of an invocation works with. -/
def Invocation.host (inv : Invocation V F S) (fs : X) : MainHost F S X where
  fileName := inv.fileName
  hosts := inv.hosts
  snapshots := files
  decode := VmState.deserialize b
  fs := fs
  kernels := inv.kernels

/-- The machine that `main` has started up, when it calls `vm.run`. -/
def Invocation.Starts (inv : Invocation V F S) (fs : X) (vm : VirtualMachine V Q F S) : Prop :=
  ∃ vm₀ : VirtualMachine V Q F S, VirtualMachine.new vmm inv.kvmHost inv.cpus = .ok vm₀ ∧
    startupBoot vmm env.queue kvm (inv.host files b fs) inv.args inv.bootloader vm₀ = (vm, none)

/-- `main`. The result of `vm.run` is logged and dropped. -/
inductive Main : X → Invocation V F S → X → ProgramEnd → Prop
  | notCreated {fs : X} {inv : Invocation V F S} {e : HypervisorError}
      (h : (VirtualMachine.new vmm inv.kvmHost inv.cpus :
        Except HypervisorError (VirtualMachine V Q F S)) = .error e) :
      Main fs inv fs (.ended .exited)
  | notStarted {fs : X} {inv : Invocation V F S} {vm vm' : VirtualMachine V Q F S} {e : MainEnd}
      (hnew : VirtualMachine.new vmm inv.kvmHost inv.cpus = .ok vm)
      (h : startupBoot vmm env.queue kvm (inv.host files b fs) inv.args inv.bootloader vm =
        (vm', some e)) :
      Main fs inv fs (.ended e)
  | panicked {fs : X} {inv : Invocation V F S} {vm : VirtualMachine V Q F S}
      (hstart : inv.Starts vmm env kvm files b fs vm) (hrun : vm.RunPanicked env kvm) :
      Main fs inv fs (.ended .panicked)
  | completed {fs : X} {inv : Invocation V F S} {vm vm' : VirtualMachine V Q F S}
      (hstart : inv.Starts vmm env kvm files b fs vm) (hrun : vm.Ran env kvm vm')
      (hsave : inv.saveState = none) :
      Main fs inv fs .ok
  | saved {fs fs' : X} {inv : Invocation V F S} {vm vm' : VirtualMachine V Q F S} {path : String}
      (hstart : inv.Starts vmm env kvm files b fs vm) (hrun : vm.Ran env kvm vm')
      (hsave : inv.saveState = some path)
      (h : saveToFile vmm kvm files b fs vm'.memory.memory vm'.vcpus path = (fs', .ok ())) :
      Main fs inv fs' .ok
  | saveFailed {fs fs' : X} {inv : Invocation V F S} {vm vm' : VirtualMachine V Q F S}
      {path : String} {e : SnapshotError}
      (hstart : inv.Starts vmm env kvm files b fs vm) (hrun : vm.Ran env kvm vm')
      (hsave : inv.saveState = some path)
      (h : saveToFile vmm kvm files b fs vm'.memory.memory vm'.vcpus path = (fs', .error e)) :
      Main fs inv fs' (.ended (.returned (.ioError e.display)))

end

variable {vmm : VmMemory} {env : DeviceEnv Q C F S W} {kvm : KvmVcpu V} {files : SnapshotFiles X}
  {b : Bincode Y} {inv : Invocation V F S} {fs fs' : X}

/-! ### The startup of an invocation -/

/-- No file is restored: whatever its bytes, they are decoded to an error. -/
theorem VirtualMachine.restoreState_err (vm : VirtualMachine V Q F S) (path : String) :
    ∃ vm' e, vm.restoreState vmm kvm files (VmState.deserialize b) fs path = (vm', .err e) := by
  cases hopen : files.openFile fs path with
  | error e =>
      simp only [restoreState, loadWith, hopen]
      exact ⟨_, _, rfl⟩
  | ok bytes =>
      simp only [restoreState, loadWith, hopen, VmState.deserialize_eq_err]
      exact ⟨_, _, rfl⟩

/-- **With `--restore-state` a startup ends early**, and not in a panic. -/
theorem startupBoot_restoring {args : Args} {path : String} (bootloader : Option String)
    (vm : VirtualMachine V Q F S) (hpath : args.restoreState = some path) :
    ∃ vm' e, startupBoot vmm env.queue kvm (inv.host files b fs) args bootloader vm =
      (vm', some e) ∧ e ≠ .panicked := by
  rcases hattach : forList (mainStep env.queue (inv.host files b fs).hosts)
      (args.steps (inv.host files b fs).fileName).zipIdx vm with ⟨vm₁, _ | e⟩
  · obtain ⟨vm', e, hrestore⟩ : ∃ vm' e, vm₁.restoreState vmm kvm (inv.host files b fs).snapshots
        (inv.host files b fs).decode (inv.host files b fs).fs path = (vm', .err e) :=
      vm₁.restoreState_err (b := b) path
    refine ⟨vm', .returned e, ?_, by rintro ⟨⟩⟩
    simp only [startupBoot, startup, hattach, hpath, hrestore]
  · exact ⟨vm₁, e, by simp only [startupBoot, startup, hattach], mainSteps_ne_panicked hattach⟩

/-- The phases of a startup that restores nothing. -/
theorem startup_phases {host : MainHost F S X} {args : Args} {vm vm' : VirtualMachine V Q F S}
    (hrestore : args.restoreState = none)
    (h : startup vmm env.queue kvm host args vm = (vm', none)) :
    ∃ vm₁, forList (mainStep env.queue host.hosts) (args.steps host.fileName).zipIdx vm =
        (vm₁, none) ∧
      vm₁.loadKernel vmm kvm host.kernels args.kernel = (vm', .ok ()) := by
  rw [startup] at h
  rcases hattach : forList (mainStep env.queue host.hosts) (args.steps host.fileName).zipIdx vm
    with ⟨vm₁, _ | e⟩
  · simp only [hattach, hrestore] at h
    rcases hload : vm₁.loadKernel vmm kvm host.kernels args.kernel with ⟨vm₂, u | e | _⟩
    · simp only [hload] at h
      obtain rfl := (Prod.mk.inj h).1
      exact ⟨vm₁, rfl, hload⟩
    · simp only [hload] at h
      cases (Prod.mk.inj h).2
    · simp only [hload] at h
      cases (Prod.mk.inj h).2
  · simp only [hattach] at h
    cases (Prod.mk.inj h).2

/-- The bootloader is loaded over what the rest of the startup has left. -/
theorem startupBoot_phases {host : MainHost F S X} {args : Args} {bootloader : Option String}
    {vm vm' : VirtualMachine V Q F S}
    (h : startupBoot vmm env.queue kvm host args bootloader vm = (vm', none)) :
    ∃ vm₁, startup vmm env.queue kvm host args vm = (vm₁, none) ∧
      (bootloader = none ∧ vm' = vm₁ ∨ ∃ path, bootloader = some path ∧
        vm₁.loadBootloader vmm kvm host.kernels.readFile path = (vm', .ok ())) := by
  rw [startupBoot] at h
  rcases hstart : startup vmm env.queue kvm host args vm with ⟨vm₁, _ | e⟩
  · simp only [hstart] at h
    refine ⟨vm₁, rfl, ?_⟩
    cases bootloader with
    | none => exact .inl ⟨rfl, (Prod.mk.inj h).1.symm⟩
    | some path =>
        rcases hboot : vm₁.loadBootloader vmm kvm host.kernels.readFile path with ⟨vm₂, e | u⟩
        · simp only [hboot] at h
          cases (Prod.mk.inj h).2
        · simp only [hboot] at h
          obtain rfl := (Prod.mk.inj h).1
          exact .inr ⟨path, rfl, hboot⟩
  · simp only [hstart] at h
    cases (Prod.mk.inj h).2

/-- A machine that is started up was not asked to restore a snapshot. -/
theorem Invocation.Starts.restoreState {vm : VirtualMachine V Q F S}
    (h : inv.Starts vmm env kvm files b fs vm) : inv.args.restoreState = none := by
  obtain ⟨vm₀, -, hboot⟩ := h
  cases hpath : inv.args.restoreState with
  | none => rfl
  | some path =>
      obtain ⟨_, _, hend, -⟩ := startupBoot_restoring inv.bootloader vm₀ hpath
      rw [hend] at hboot
      cases (Prod.mk.inj hboot).2

/-- The devices that `main` attaches are inert. -/
theorem mainSteps_inert (rd : env.queue.Readiness) {hosts : ℕ → AttachHost F S}
    {steps : List (MainStep × ℕ)} {vm vm' : VirtualMachine V Q F S}
    (hvm : ∀ dev ∈ vm.devices, dev.device.Inert rd)
    (h : forList (mainStep env.queue hosts) steps vm = (vm', none)) :
    ∀ dev ∈ vm'.devices, dev.device.Inert rd := by
  refine forList_rel (R := fun _ u => ∀ dev ∈ u.devices, dev.device.Inert rd) hvm ?_ h
  rintro - u u' ⟨call | _, i⟩ - hu hnext
  · simp only [mainStep] at hnext
    rcases u.attach_cases env.queue (hosts i) call with ⟨device, hcall⟩ | ⟨e, hcall⟩
    · rw [hcall] at hnext
      obtain rfl := Flow.next.inj hnext
      intro dev hdev
      rcases List.mem_append.mp hdev with hdev | hdev
      · exact hu dev hdev
      · obtain rfl := List.mem_singleton.mp hdev
        exact VirtualMachine.attach_inert rd hcall
    · rw [hcall] at hnext
      cases hnext
  · cases hnext

/-- The loader that a successful `load_kernel` has called. -/
theorem VirtualMachine.loadKernel_loads {kernels : KernelFiles} {vm vm' : VirtualMachine V Q F S}
    {path : String} (h : vm.loadKernel vmm kvm kernels path = (vm', .ok ())) :
    ∃ loader, KernelLoader.loadKernel vmm kernels vm.memory.memory path kernelCmdline =
      (vm'.memory.memory, .ok loader) := by
  rw [loadKernel] at h
  rcases hload : KernelLoader.loadKernel vmm kernels vm.memory.memory path kernelCmdline
    with ⟨m, loader | e | _⟩
  · rcases hinit : initVcpus kvm loader.entryPoint 0x7000 vm.vcpus with ⟨vcpus, e | u⟩
    · simp only [hload, hinit] at h
      cases (Prod.mk.inj h).2
    · simp only [hload, hinit] at h
      rw [← (Prod.mk.inj h).1]
      exact ⟨loader, rfl⟩
  · rw [hload] at h
    cases (Prod.mk.inj h).2
  · rw [hload] at h
    cases (Prod.mk.inj h).2

/-- What `load_kernel` keeps of a machine. -/
theorem VirtualMachine.loadKernel_layout {kernels : KernelFiles} {vm vm' : VirtualMachine V Q F S}
    {path : String} (h : vm.loadKernel vmm kvm kernels path = (vm', .ok ())) :
    vm'.memory.memory.layout = vm.memory.memory.layout ∧ vm'.devices = vm.devices ∧
      vm'.vcpus.length = vm.vcpus.length := by
  obtain ⟨_, _, -, -, -, hinit, -, hdevices⟩ := loadKernel_ok h
  obtain ⟨loader, hload⟩ := loadKernel_loads h
  obtain ⟨_, _, -, -, hlayout, -, -⟩ := KernelLoader.loadKernel_ok hload
  exact ⟨hlayout, hdevices, (initVcpus_ok hinit).length_eq.symm⟩

/-- What `load_bootloader` keeps of a machine. -/
theorem VirtualMachine.loadBootloader_layout {readFile : String → Except String (List UInt8)}
    {vm vm' : VirtualMachine V Q F S} {path : String}
    (h : vm.loadBootloader vmm kvm readFile path = (vm', .ok ())) :
    vm'.memory.memory.layout = vm.memory.memory.layout ∧ vm'.devices = vm.devices ∧
      vm'.vcpus.length = vm.vcpus.length := by
  rw [loadBootloader] at h
  rcases hload : BiosLoader.loadBootloader vmm readFile vm.memory.memory path with ⟨m, e | u⟩
  · rw [hload] at h
    cases (Prod.mk.inj h).2
  · rcases hinit : eachVcpu (BiosLoader.initVcpuForRealMode kvm) vm.vcpus with ⟨vcpus, r⟩
    simp only [hload, hinit] at h
    obtain ⟨rfl, rfl⟩ := Prod.mk.inj h
    obtain ⟨_, -, hlayout, -⟩ := BiosLoader.loadBootloader_ok hload
    exact ⟨hlayout, rfl, (eachVcpu_ok hinit).length_eq.symm⟩

/-- **What `main` brings to `vm.run`**: as many vCPUs as were asked for, 128 MB of memory, and
devices none of whose queues is ready. -/
theorem Invocation.Starts.spec (rd : env.queue.Readiness) {vm : VirtualMachine V Q F S}
    (h : inv.Starts vmm env kvm files b fs vm) :
    vm.memory.memory.layout.regions.map (fun r => (r.start, r.len)) = [(0, memorySize)] ∧
      (∀ dev ∈ vm.devices, dev.device.Inert rd) ∧ vm.vcpus.length = inv.cpus.toNat := by
  have hrestore := h.restoreState
  obtain ⟨vm₀, hnew, hboot⟩ := h
  obtain ⟨vm₂, hstart, hend⟩ := startupBoot_phases hboot
  obtain ⟨vm₁, hattach, hload⟩ := startup_phases hrestore hstart
  obtain ⟨hL₀, -, hdev₀, -, hlen₀⟩ := VirtualMachine.new_spec hnew
  obtain ⟨hmem₁, hvcpus₁⟩ := mainSteps_ok hattach
  have hinert₁ := mainSteps_inert rd (by rw [hdev₀]; exact List.forall_mem_nil _) hattach
  obtain ⟨hL₂, hdev₂, hlen₂⟩ := VirtualMachine.loadKernel_layout hload
  have hL : vm₂.memory.memory.layout.regions.map (fun r => (r.start, r.len)) =
      [(0, memorySize)] := by
    rw [hL₂, hmem₁]
    exact hL₀
  have hlen : vm₂.vcpus.length = inv.cpus.toNat := by
    rw [hlen₂, hvcpus₁]
    exact hlen₀
  rcases hend with ⟨-, rfl⟩ | ⟨path, -, hbl⟩
  · exact ⟨hL, hdev₂ ▸ hinert₁, hlen⟩
  · obtain ⟨hL₃, hdev₃, hlen₃⟩ := VirtualMachine.loadBootloader_layout hbl
    exact ⟨hL₃ ▸ hL, hdev₃ ▸ hdev₂ ▸ hinert₁, hlen₃.trans hlen⟩

/-! ### The run of an invocation -/

/-- A run keeps the layout of guest memory. -/
theorem layout_trace {n : ℕ} {rd : env.queue.Readiness} {running : Bool} {memory : GuestMemory}
    {devices : List (VirtioMmioDevice Q F S)} {stdout : W} {s : MachineState n Q F S W}
    {calls : List (MachineState n Q F S W × Actor n × MachineEvent)}
    (hinert : ∀ dev ∈ devices, dev.device.Inert rd)
    (htrace : Trace (MachineState.Step env kvm) (.start n running memory devices stdout) calls s) :
    s.memory.layout = memory.layout := by
  refine (htrace.inv (I := fun s => DevicesInv rd s ∧ s.memory.layout = memory.layout)
    ?_ ⟨(driftInv_start hinert n running memory stdout).toDevicesInv, rfl⟩).1.2
  intro s actor s' ev hs hstep
  refine ⟨hs.1.step hstep, ?_⟩
  by_cases hguest : ev = .guest
  · subst hguest
    cases hstep with
    | guest mem hin hpc hlayout => exact hlayout.trans hs.2
  · rcases hstep.devices hs.1 with ⟨-, hmem, -⟩ | ⟨_, _, _, _, _, -, -, -, -, rfl⟩
    · rw [hmem hguest]
      exact hs.2
    · exact hs.2

/-- **A run returns only after a vCPU has failed**, and keeps the layout of memory and the number
of vCPUs. -/
theorem VirtualMachine.Ran.spec [Inhabited V] {rd : env.queue.Readiness}
    {vm vm' : VirtualMachine V Q F S} (hinert : ∀ dev ∈ vm.devices, dev.device.Inert rd)
    (h : vm.Ran env kvm vm') :
    vm'.memory.memory.layout = vm.memory.memory.layout ∧ vm'.vcpus.length = vm.vcpus.length ∧
      ∃ stdout calls s r, Trace (MachineState.Step env kvm)
          (.start vm.vcpus.length false vm.memory.memory vm.devices stdout) calls s ∧
        s.main = .returned r ∧ SomeFailed calls ∧ vm'.memory.memory = s.memory := by
  obtain ⟨stdout, calls, s, r, vcpus, htrace, hmain, hids, rfl⟩ := h
  refine ⟨layout_trace hinert htrace, ?_, stdout, calls, s, r, htrace, hmain, ?_, rfl⟩
  · have hlen := congrArg List.length hids
    rwa [List.length_map, List.length_map] at hlen
  · by_contra hfailed
    have hquiet := quiet_of_not_failed htrace hfailed (by rw [hmain]; rintro ⟨⟩)
    exact hquiet (.inl ((machineInv_trace htrace).1.2.ended (by rw [hmain]; trivial)))

/-! ### What is saved -/

/-- The snapshot of a machine with 128 MB of memory. -/
structure WholeSnapshot (kvm : KvmVcpu V) (vm : VirtualMachine V Q F S) (state : VmState) :
    Prop where
  memory : state.memoryRegions =
    [{ guestAddr := 0, size := UInt64.ofNat memorySize
       data := slice vm.memory.memory.bytes 0 memorySize }]
  vcpus : List.Forall₂ (fun vcpu saved => Restored kvm saved vcpu) vm.vcpus state.vcpuStates
  devices : state.deviceStates = []

theorem createSnapshot_whole {vm : VirtualMachine V Q F S} {state : VmState}
    (hL : vm.memory.memory.layout.regions.map (fun r => (r.start, r.len)) = [(0, memorySize)])
    (h : createSnapshot vmm kvm vm.memory.memory vm.vcpus = .ok state) :
    WholeSnapshot kvm vm state := by
  obtain ⟨hmem, hvcpus⟩ := createSnapshot_ok h
  refine ⟨?_, ?_, ?_⟩
  · obtain ⟨r, hr, hrange⟩ := List.map_eq_singleton_iff.mp hL
    obtain ⟨hstart, hlen⟩ := Prod.mk.inj hrange
    rw [saveMemory_eq, hr, List.map_singleton] at hmem
    rw [← Except.ok.inj hmem, wholeRegion, hstart, hlen]
    rfl
  · exact (mapM_ok_iff.mp hvcpus).imp fun _ _ => saveVcpuState_ok
  · rw [createSnapshot] at h
    split at h
    · cases h
    · split at h
      · cases h
      · rw [← Except.ok.inj h]

/-! ### An invocation on a plain host -/

/-- An invocation with nothing but a kernel, on a host on which everything succeeds. -/
def Invocation.plain (restoreState saveState : Option String) :
    Invocation PlainVcpu DiskFile Unit where
  args := { Args.plain with restoreState }
  cpus := 1
  bootloader := none
  saveState := saveState
  kvmHost := KvmHost.plain
  fileName := some
  hosts _ := AttachHost.plain
  kernels := KernelFiles.twoBytes

/-- It starts with any number of vCPUs. -/
theorem Invocation.plain_starts {cpus : UInt32}
    {vm₀ : VirtualMachine PlainVcpu GatedQueue DiskFile Unit}
    (hnew : VirtualMachine.new VmMemory.mmap KvmHost.plain cpus = .ok vm₀)
    (saveState : Option String) (fs : String → Option (List UInt8)) :
    ∃ vm : VirtualMachine PlainVcpu GatedQueue DiskFile Unit,
      { Invocation.plain none saveState with cpus }.Starts VmMemory.mmap DeviceEnv.plain
        PlainVcpu.kvm SnapshotFiles.plain Bincode.plain fs vm := by
  obtain ⟨dev, hcall, -⟩ := vm₀.attach_gatedConsole
  obtain ⟨hL, -⟩ := VirtualMachine.new_spec hnew
  have hL₁ : (vm₀.push dev).memory.memory.layout.regions.map (fun r => (r.start, r.len)) =
      [(0, memorySize)] := hL
  obtain ⟨vm, hload⟩ := VirtualMachine.loadKernel_twoBytes VmMemory.mmap "vmlinux" hL₁
  have hcall' : vm₀.attach DeviceEnv.plain.queue AttachHost.plain .console =
      (vm₀.push dev, .ok ()) := hcall
  have hattach : forList (mainStep DeviceEnv.plain.queue
      ((Invocation.plain none saveState).host SnapshotFiles.plain Bincode.plain fs).hosts)
      ((Invocation.plain none saveState).args.steps ((Invocation.plain none saveState).host
        SnapshotFiles.plain Bincode.plain fs).fileName).zipIdx vm₀ = (vm₀.push dev, none) := by
    show forList (mainStep DeviceEnv.plain.queue fun _ => AttachHost.plain)
      [(.attach .console, 0)] vm₀ = _
    simp only [forList, mainStep, hcall']
  have hload' : (vm₀.push dev).loadKernel VmMemory.mmap PlainVcpu.kvm
      ((Invocation.plain none saveState).host SnapshotFiles.plain Bincode.plain fs).kernels
      (Invocation.plain none saveState).args.kernel = (vm, .ok ()) := hload
  have hrestore : (Invocation.plain none saveState).args.restoreState = none := rfl
  have hboot : (Invocation.plain none saveState).bootloader = none := rfl
  have hstart : startupBoot VmMemory.mmap DeviceEnv.plain.queue PlainVcpu.kvm
      ((Invocation.plain none saveState).host SnapshotFiles.plain Bincode.plain fs)
      (Invocation.plain none saveState).args (Invocation.plain none saveState).bootloader vm₀ =
        (vm, none) := by
    simp only [startupBoot, startup, hattach, hrestore, hload', hboot]
  exact ⟨vm, vm₀, hnew, hstart⟩

/-- Its only vCPU fails at once, and `run` returns. -/
theorem trace_failing (memory : GuestMemory)
    (devices : List (VirtioMmioDevice GatedQueue DiskFile Unit)) {n : ℕ} (hn : n = 1) :
    ∃ calls s, Trace (MachineState.Step (n := n) DeviceEnv.plain PlainVcpu.kvm)
        (.start n false memory devices []) calls s ∧ s.main = .returned (.ok ()) := by
  subst hn
  refine ⟨_, _, .cons (.main rfl (.enter rfl)) <| .cons (.main rfl (.spawn rfl Nat.one_pos)) <|
    .cons (.main rfl (.spawned rfl)) <| .cons (.loop (i := 0) rfl ?_ (.loadRunning _)) <|
    .cons (.loop (i := 0) rfl ?_ (.loadError _)) <| .cons (.loop (i := 0) rfl ?_ .issue) <|
    .cons (.loop (i := 0) rfl ?_ (.failed _ default [] (.error "Interrupted") _ rfl)) <|
    .cons (.loop (i := 0) rfl ?_ (.sendError _ _)) <|
    .cons (.loop (i := 0) rfl ?_ (.storeError _ _)) <|
    .cons (.main rfl (.recvError rfl rfl)) <| .cons (.main rfl (.storeFalse rfl)) <|
    .cons (.main rfl (.join rfl ?_)) <| .cons (.main rfl (.stopLoad rfl)) (.nil _), rfl⟩
  case refine_7 =>
      intro i
      rw [Subsingleton.elim i 0]
      exact ⟨_, rfl⟩
  all_goals exact ⟨by rintro exit ⟨⟩, by rintro data regs r ⟨⟩⟩

/-- The invocation saves its machine. -/
theorem main_plain (fs : String → Option (List UInt8)) :
    ∃ fs' bytes, Main VmMemory.mmap DeviceEnv.plain PlainVcpu.kvm SnapshotFiles.plain Bincode.plain
        fs (Invocation.plain none (some "vm.snapshot")) fs' .ok ∧
      SnapshotFiles.plain.openFile fs' "vm.snapshot" = .ok bytes := by
  obtain ⟨vm₀, hnew⟩ := VirtualMachine.new_gated
  obtain ⟨vm, hstart⟩ := Invocation.plain_starts hnew (some "vm.snapshot") fs
  have hlen : vm.vcpus.length = 1 := (hstart.spec GatedQueue.readiness).2.2
  obtain ⟨calls, s, htrace, hmain⟩ := trace_failing vm.memory.memory vm.devices hlen
  have hrun : vm.Ran DeviceEnv.plain PlainVcpu.kvm
      { vm.withMemory s.memory with devices := s.devices, vcpus := vm.vcpus } :=
    ⟨[], calls, s, .ok (), vm.vcpus, htrace, hmain, rfl, rfl⟩
  have hread : ∀ vcpu ∈ vm.vcpus, Readable PlainVcpu.kvm vcpu := fun vcpu _ =>
    ⟨⟨0, vcpu.fd.regs.kept, vcpu.fd.sregs, vcpu.fd.fpu.kept, []⟩, rfl, rfl, rfl⟩
  obtain ⟨state, hstate⟩ := createSnapshot_readable VmMemory.mmap PlainVcpu.kvm s.memory hread
  obtain ⟨fs', hsave⟩ : ∃ fs', saveToFile VmMemory.mmap PlainVcpu.kvm SnapshotFiles.plain
      Bincode.plain fs s.memory vm.vcpus "vm.snapshot" = (fs', .ok ()) := by
    simp only [saveToFile, hstate]
    exact ⟨_, rfl⟩
  obtain ⟨_, bytes, -, -, hopen⟩ := saveToFile_ok hsave
  exact ⟨fs', bytes, .saved hstart hrun rfl hsave, hopen⟩

/-! ### Invocations -/

/-- **What an invocation without an error has done**: it has run a guest, until a vCPU failed. If
it was asked to save, the file has a snapshot of all of memory as the run has left it and of the
registers of all vCPUs; otherwise no file has changed. -/
theorem main_ok [Inhabited V] (rd : env.queue.Readiness)
    (h : Main vmm env kvm files b fs inv fs' .ok) :
    inv.args.restoreState = none ∧ ∃ vm vm' : VirtualMachine V Q F S,
      inv.Starts vmm env kvm files b fs vm ∧
      (∃ stdout calls s r, Trace (MachineState.Step env kvm)
          (.start vm.vcpus.length false vm.memory.memory vm.devices stdout) calls s ∧
        s.main = .returned r ∧ SomeFailed calls ∧ vm'.memory.memory = s.memory) ∧
      vm'.vcpus.length = inv.cpus.toNat ∧ (inv.saveState = none → fs' = fs) ∧
      ∀ path, inv.saveState = some path → ∃ state bytes, WholeSnapshot kvm vm' state ∧
        b.serialize state.serialize = .ok bytes ∧ files.openFile fs' path = .ok bytes := by
  have hspec : ∀ {vm vm' : VirtualMachine V Q F S}, inv.Starts vmm env kvm files b fs vm →
      vm.Ran env kvm vm' →
      vm'.memory.memory.layout.regions.map (fun r => (r.start, r.len)) = [(0, memorySize)] ∧
      vm'.vcpus.length = inv.cpus.toNat ∧
      ∃ stdout calls s r, Trace (MachineState.Step env kvm)
          (.start vm.vcpus.length false vm.memory.memory vm.devices stdout) calls s ∧
        s.main = .returned r ∧ SomeFailed calls ∧ vm'.memory.memory = s.memory := by
    intro vm vm' hstart hrun
    obtain ⟨hL, hinert, hlen⟩ := hstart.spec rd
    obtain ⟨hL', hlen', hrest⟩ := hrun.spec hinert
    exact ⟨hL' ▸ hL, hlen'.trans hlen, hrest⟩
  cases h with
  | completed hstart hrun hsave =>
      obtain ⟨-, hlen, hrest⟩ := hspec hstart hrun
      refine ⟨hstart.restoreState, _, _, hstart, hrest, hlen, fun _ => rfl, fun path hpath => ?_⟩
      rw [hsave] at hpath
      cases hpath
  | saved hstart hrun hsave h =>
      obtain ⟨hL, hlen, hrest⟩ := hspec hstart hrun
      refine ⟨hstart.restoreState, _, _, hstart, hrest, hlen, fun hnone => ?_, fun path hpath => ?_⟩
      · rw [hsave] at hnone
        cases hnone
      · rw [hsave] at hpath
        obtain rfl := Option.some.inj hpath
        obtain ⟨state, bytes, hstate, hbytes, hopen⟩ := saveToFile_ok h
        exact ⟨state, bytes, createSnapshot_whole hL hstate, hbytes, hopen⟩

/-- An invocation saves the machine of a failed run. -/
theorem main_ok_plain :
    ∃ fs', ∃ vm : VirtualMachine PlainVcpu GatedQueue DiskFile Unit, ∃ state bytes,
      vm.vcpus.length = 1 ∧ WholeSnapshot PlainVcpu.kvm vm state ∧
      Bincode.plain.serialize state.serialize = .ok bytes ∧
      SnapshotFiles.plain.openFile fs' "vm.snapshot" = .ok bytes := by
  obtain ⟨fs', -, hmain, -⟩ := main_plain fun _ => none
  obtain ⟨-, -, vm', -, -, hlen, -, hsave⟩ := main_ok GatedQueue.readiness hmain
  obtain ⟨state, bytes, hsnapshot⟩ := hsave _ rfl
  exact ⟨fs', vm', state, bytes, hlen, hsnapshot⟩

/-- Writing one file leaves the others alone, where `same` tells which paths lead to one file. -/
structure SnapshotFiles.Framed (files : SnapshotFiles X) (same : String → String → Prop) :
    Prop where
  create : ∀ {s s' path p}, files.create s path = .ok s' → ¬same p path →
    files.openFile s' p = files.openFile s p
  writeAll : ∀ {s path bytes p}, ¬same p path →
    files.openFile (files.writeAll s path bytes).1 p = files.openFile s p

theorem SnapshotFiles.plain_framed : SnapshotFiles.plain.Framed (· = ·) where
  create {s s' path p} h hp := by
    obtain rfl := Except.ok.inj h
    simp only [plain, if_neg hp]
  writeAll {s path bytes p} hp := by
    simp only [plain, if_neg hp]

variable {same : String → String → Prop}

/-- Whether or not it succeeds, `save_to_file` leaves all other files alone. -/
theorem saveToFile_frame (hframed : files.Framed same) {m : GuestMemory} {vcpus : List (Vcpu V)}
    {path p : String} (hp : ¬same p path) :
    files.openFile (saveToFile vmm kvm files b fs m vcpus path).1 p = files.openFile fs p := by
  rw [saveToFile]
  cases createSnapshot vmm kvm m vcpus with
  | error e => rfl
  | ok state =>
      cases hcreate : files.create fs path with
      | error e => rfl
      | ok fs₁ =>
          have hcreated := hframed.create hcreate hp
          cases hb : b.serialize state.serialize with
          | error e =>
              simp only [hb]
              exact hcreated
          | ok bytes =>
              have hwritten : files.openFile (files.writeAll fs₁ path bytes).1 p = _ :=
                (hframed.writeAll hp).trans hcreated
              rcases hw : files.writeAll fs₁ path bytes with ⟨fs₂, e | u⟩
              · simp only [hb, hw]
                rwa [hw] at hwritten
              · simp only [hb, hw]
                rwa [hw] at hwritten

/-- An invocation that changes a file was asked to save to it, and has come to the end of its
run. -/
theorem Main.file_changed (hframed : files.Framed same) {r : ProgramEnd}
    (h : Main vmm env kvm files b fs inv fs' r) {p : String}
    (hne : files.openFile fs' p ≠ files.openFile fs p) :
    (∃ path, inv.saveState = some path ∧ same p path) ∧ ∃ vm vm' : VirtualMachine V Q F S,
      inv.Starts vmm env kvm files b fs vm ∧ vm.Ran env kvm vm' := by
  have hpath : ∀ (vm : VirtualMachine V Q F S) (path : String),
      fs' = (saveToFile vmm kvm files b fs vm.memory.memory vm.vcpus path).1 → same p path := by
    rintro vm path rfl
    by_contra hp
    exact hne (saveToFile_frame hframed hp)
  cases h with
  | @saved _ _ vm vm' path hstart hrun hsave h =>
      exact ⟨⟨path, hsave, hpath vm' path (by rw [h])⟩, vm, vm', hstart, hrun⟩
  | @saveFailed _ _ vm vm' path e hstart hrun hsave h =>
      exact ⟨⟨path, hsave, hpath vm' path (by rw [h])⟩, vm, vm', hstart, hrun⟩
  | _ => exact absurd rfl hne

/-- **Files change only after a guest has run.** Over any sequence of invocations, each on the
files that the ones before have left, a file is as it was unless one of them was asked to save to
it, by this path or another one, was not asked to restore anything, and has come to the end of its
run. -/
theorem main_files (hframed : files.Framed same)
    {calls : List (X × Invocation V F S × ProgramEnd)}
    (htrace : Trace (Main vmm env kvm files b) fs calls fs') {p : String}
    (h : files.openFile fs' p ≠ files.openFile fs p) :
    ∃ x ∈ calls, (∃ path, x.2.1.saveState = some path ∧ same p path) ∧
      x.2.1.args.restoreState = none ∧
      ∃ vm vm' : VirtualMachine V Q F S, x.2.1.Starts vmm env kvm files b x.1 vm ∧
        vm.Ran env kvm vm' := by
  induction htrace with
  | nil fs => exact absurd rfl h
  | @cons fs fs₁ _ inv r _ hcall _ ih =>
      by_cases hsame : files.openFile fs₁ p = files.openFile fs p
      · -- the file has changed later
        obtain ⟨x, hx, hsave⟩ := ih (by rwa [hsame])
        exact ⟨x, List.mem_cons_of_mem _ hx, hsave⟩
      · obtain ⟨hsave, vm, vm', hstart, hrun⟩ := hcall.file_changed hframed hsame
        exact ⟨_, List.mem_cons_self, hsave, hstart.restoreState, vm, vm', hstart, hrun⟩

/-- A file that was not there is there once an invocation has saved to it. -/
theorem main_files_plain :
    ∃ fs' calls, Trace (Main VmMemory.mmap DeviceEnv.plain PlainVcpu.kvm SnapshotFiles.plain
        Bincode.plain) (fun _ => none) calls fs' ∧
      ∃ x ∈ calls, x.2.1.saveState = some "vm.snapshot" ∧ x.2.1.args.restoreState = none := by
  obtain ⟨fs', bytes, hmain, hopen⟩ := main_plain fun _ => none
  have htrace := Trace.cons hmain (.nil fs')
  have hne : SnapshotFiles.plain.openFile fs' "vm.snapshot" ≠
      SnapshotFiles.plain.openFile (fun _ => none) "vm.snapshot" := by
    rw [hopen]
    rintro ⟨⟩
  obtain ⟨x, hx, ⟨_, hsave, rfl⟩, hrestore, -⟩ :=
    main_files SnapshotFiles.plain_framed htrace hne
  exact ⟨fs', _, htrace, x, hx, hsave, hrestore⟩

end MoVm
