import MoVm.Boot
import MoVm.SnapshotFormat

/-!
# Startup

The part of `main` between creating the machine and `vm.run`: attach the devices, restore
a snapshot if one is asked for, load the kernel. Each phase is modelled where its code is;
this module composes them, with the early exits of `main` between them.

The decoder of the snapshot file is left open, so that the results are about every snapshot
that `restore_snapshot` accepts and not only about those one file format can express.

## Main results

* `VirtualMachine.restoreState_ok`: what a successful restore leaves in memory and registers.
* `startup_from_snapshot_iff`: the guest starts from the snapshot exactly when the kernel
  loader would write nothing else where the snapshot has bytes, and initialising the vCPUs
  would change none of the saved registers.
-/

open Lib

namespace MoVm

variable {V Q C F S X : Type} (vmm : VmMemory) (vq : VirtioQueue Q C) (kvm : KvmVcpu V)

/-! ### `restore_state` -/

/-- `VirtualMachine::restore_state`. Its errors are passed on by their display text. -/
def VirtualMachine.restoreState (files : SnapshotFiles X)
    (decode : List UInt8 → Outcome String VmState) (fs : X) (vm : VirtualMachine V Q F S)
    (path : String) : VirtualMachine V Q F S × Outcome HypervisorError Unit :=
  match loadWith vmm kvm files decode fs vm.memory.memory vm.vcpus path with
  | ((m, vcpus), .ok ()) => ({ vm.withMemory m with vcpus }, .ok ())
  | ((m, vcpus), .err e) => ({ vm.withMemory m with vcpus }, .err (.ioError e.display))
  | ((m, vcpus), .panic) => ({ vm.withMemory m with vcpus }, .panic)

/-! ### `main` up to `vm.run` -/

/-- How `main` can end before it reaches `vm.run`: by returning an error, by leaving the
process with code 1, or in a panic. -/
inductive MainEnd
  | returned (e : HypervisorError)
  | exited
  | panicked
deriving DecidableEq

/-- One step of the device part, on the host as it is then. -/
def mainStep (hosts : ℕ → AttachHost F S) (vm : VirtualMachine V Q F S) (step : MainStep × ℕ) :
    Flow (VirtualMachine V Q F S) MainEnd :=
  match step with
  | (.exit, _) => .exit vm .exited
  | (.attach call, i) =>
      match vm.attach vq (hosts i) call with
      | (vm, .ok ()) => .next vm
      | (vm, .error e) => .exit vm (.returned e)

/-- What `main` calls outside the hypervisor: the file names of paths, the devices' hosts,
the snapshot files with their decoder, and the kernel files. -/
structure MainHost (F S X : Type) where
  fileName : String → Option String
  hosts : ℕ → AttachHost F S
  snapshots : SnapshotFiles X
  decode : List UInt8 → Outcome String VmState
  fs : X
  kernels : KernelFiles

/-- `main` from the devices to `vm.run`, without `--bootloader`: the machine, and `none`
when `vm.run` is reached. -/
def startup (host : MainHost F S X) (args : Args) (vm : VirtualMachine V Q F S) :
    VirtualMachine V Q F S × Option MainEnd :=
  match forList (mainStep vq host.hosts) (args.steps host.fileName).zipIdx vm with
  | (vm, some e) => (vm, some e)
  | (vm, none) =>
      let restored :=
        match args.restoreState with
        | some path => vm.restoreState vmm kvm host.snapshots host.decode host.fs path
        | none => (vm, .ok ())
      match restored with
      | (vm, .err e) => (vm, some (.returned e))
      | (vm, .panic) => (vm, some .panicked)
      | (vm, .ok ()) =>
          match vm.loadKernel vmm kvm host.kernels args.kernel with
          | (vm, .err _) => (vm, some .exited)
          | (vm, .panic) => (vm, some .panicked)
          | (vm, .ok ()) => (vm, none)

variable {vmm vq kvm}

/-- Attaching the devices may fail, but does not panic. -/
theorem mainSteps_ne_panicked {hosts : ℕ → AttachHost F S} {steps : List (MainStep × ℕ)}
    {vm vm' : VirtualMachine V Q F S} {e : MainEnd}
    (h : forList (mainStep vq hosts) steps vm = (vm', some e)) : e ≠ .panicked := by
  induction steps generalizing vm with
  | nil => cases h
  | cons step steps ih =>
      rw [forList] at h
      obtain ⟨call | _, i⟩ := step
      · rcases vm.attach_cases vq (hosts i) call with ⟨device, hcall⟩ | ⟨e', hcall⟩
        · simp only [mainStep, hcall] at h
          exact ih h
        · simp only [mainStep, hcall] at h
          obtain rfl := Option.some.inj (Prod.mk.inj h).2
          rintro ⟨⟩
      · obtain rfl := Option.some.inj (Prod.mk.inj h).2
        rintro ⟨⟩

/-- The blocks of memory a snapshot has. -/
def VmState.blocks (state : VmState) : List (ℕ × List UInt8) :=
  state.memoryRegions.map fun r => (r.guestAddr.toNat, r.data)

/-- A successful restore has decoded a snapshot and written its blocks and registers. -/
theorem VirtualMachine.restoreState_ok {files : SnapshotFiles X}
    {decode : List UInt8 → Outcome String VmState} {fs : X} {vm vm' : VirtualMachine V Q F S}
    {path : String} (h : vm.restoreState vmm kvm files decode fs path = (vm', .ok ())) :
    ∃ bytes state, files.openFile fs path = .ok bytes ∧ decode bytes = .ok state ∧
      vm'.memory.memory.layout = vm.memory.memory.layout ∧
      vm'.memory.memory.bytes = patches vm.memory.memory.bytes state.blocks ∧
      restoreVcpus kvm state.vcpuStates vm.vcpus = (vm'.vcpus, .ok ()) := by
  rw [restoreState] at h
  rcases hload : loadWith vmm kvm files decode fs vm.memory.memory vm.vcpus path with
    ⟨⟨m, vcpus⟩, u | e | _⟩
  · rw [hload] at h
    obtain rfl := (Prod.mk.inj h).1
    obtain ⟨bytes, state, hopen, hdec, hrestore⟩ := loadWith_ok hload
    obtain ⟨hmem, hvcpus⟩ := restoreSnapshot_ok hrestore
    obtain ⟨hL, hbytes⟩ := restoreMemory_ok hmem
    exact ⟨bytes, state, hopen, hdec, hL, hbytes, hvcpus⟩
  · rw [hload] at h
    cases (Prod.mk.inj h).2
  · rw [hload] at h
    cases (Prod.mk.inj h).2

/-- Attaching devices leaves memory and vCPUs alone. -/
theorem mainSteps_ok {hosts : ℕ → AttachHost F S} {steps : List (MainStep × ℕ)}
    {vm vm' : VirtualMachine V Q F S}
    (h : forList (mainStep vq hosts) steps vm = (vm', none)) :
    vm'.memory = vm.memory ∧ vm'.vcpus = vm.vcpus := by
  refine forList_rel (R := fun _ u => u.memory = vm.memory ∧ u.vcpus = vm.vcpus) ⟨rfl, rfl⟩
    ?_ h
  rintro - u u' ⟨call | _, i⟩ - hu hnext
  · simp only [mainStep] at hnext
    rcases u.attach_cases vq (hosts i) call with ⟨device, hcall⟩ | ⟨e, hcall⟩
    · rw [hcall] at hnext
      obtain rfl := Flow.next.inj hnext
      exact hu
    · rw [hcall] at hnext
      cases hnext
  · cases hnext

/-- `main` reaches `vm.run` when its three phases succeed. -/
theorem startup_ok {host : MainHost F S X} {args : Args} {vm vm' : VirtualMachine V Q F S}
    {path : String} (hpath : args.restoreState = some path)
    (h : startup vmm vq kvm host args vm = (vm', none)) :
    ∃ vm₁ vm₂ : VirtualMachine V Q F S, vm₁.memory = vm.memory ∧ vm₁.vcpus = vm.vcpus ∧
      vm₁.restoreState vmm kvm host.snapshots host.decode host.fs path = (vm₂, .ok ()) ∧
      vm₂.loadKernel vmm kvm host.kernels args.kernel = (vm', .ok ()) := by
  unfold startup at h
  rcases hattach : forList (mainStep vq host.hosts) (args.steps host.fileName).zipIdx vm
    with ⟨vm₁, _ | e⟩
  · obtain ⟨hmem, hvcpus⟩ := mainSteps_ok hattach
    simp only [hattach, hpath] at h
    rcases hrestore : vm₁.restoreState vmm kvm host.snapshots host.decode host.fs path
      with ⟨vm₂, _ | e | _⟩
    · simp only [hrestore] at h
      rcases hload : vm₂.loadKernel vmm kvm host.kernels args.kernel with ⟨vm₃, _ | e | _⟩
      · simp only [hload] at h
        obtain rfl := (Prod.mk.inj h).1
        exact ⟨vm₁, vm₂, hmem, hvcpus, hrestore, hload⟩
      · simp only [hload] at h
        cases (Prod.mk.inj h).2
      · simp only [hload] at h
        cases (Prod.mk.inj h).2
    · simp only [hrestore] at h
      cases (Prod.mk.inj h).2
    · simp only [hrestore] at h
      cases (Prod.mk.inj h).2
  · simp only [hattach] at h
    cases (Prod.mk.inj h).2

/-! ### Starting from a snapshot -/

/-- The machine is in the state of the snapshot: memory has its bytes wherever it has any,
and every vCPU with a saved state has the `regs` and `sregs` of that state. -/
structure StartsFrom (kvm : KvmVcpu V) (state : VmState) (vm : VirtualMachine V Q F S) :
    Prop where
  memory : ∀ a b, lastWrite state.blocks a = some b → vm.memory.memory.bytes a = b
  registers : ∀ (i : ℕ) (saved : VcpuState) (vcpu : Vcpu V),
    state.vcpuStates[i]? = some saved → vm.vcpus[i]? = some vcpu →
      kvm.getRegs vcpu.fd = .ok saved.regs ∧ kvm.getSregs vcpu.fd = .ok saved.sregs

/-- The kernel leaves a snapshot for `n` vCPUs as it is: its blocks agree with those of the
snapshot, and the saved registers are what `init` makes of them as KVM keeps them. -/
structure LeavesIntact (kvm : KvmVcpu V) (blocks : List (ℕ × List UInt8)) (entry : UInt64) (n : ℕ)
    (state : VmState) : Prop where
  memory : ∀ a b c, lastWrite state.blocks a = some b → lastWrite blocks a = some c → c = b
  registers : ∀ (i : ℕ) (saved : VcpuState), state.vcpuStates[i]? = some saved → i < n →
    bootRegs entry 0x7000 saved.regs = saved.regs ∧
      bootSregs (kvm.keptSregs saved.sregs) = saved.sregs

/-- Of two writes of blocks, the first is still visible where the second agrees with it. -/
theorem patches_patches_eq_iff {f : ℕ → UInt8} {ws vs : List (ℕ × List UInt8)} {a : ℕ}
    {b : UInt8} (hb : lastWrite ws a = some b) :
    patches (patches f ws) vs a = b ↔ ∀ c, lastWrite vs a = some c → c = b := by
  rw [patches_apply, patches_apply, hb, Option.getD_some]
  cases lastWrite vs a with
  | none => exact ⟨fun _ c hc => (nomatch hc), fun _ => rfl⟩
  | some c =>
      rw [Option.getD_some]
      exact ⟨fun h c' hc' => (Option.some.inj hc').symm.trans h, fun h => h c rfl⟩

/-- The registers of a vCPU after it was restored and then initialised. What KVM does not keep of
the saved general registers, `init` sets. -/
theorem init_of_restored {entry bootParams : UInt64} {saved : VcpuState}
    {vcpu vcpu' : Vcpu V} (hrestored : Restored kvm (saved.kept kvm) vcpu)
    (hinit : vcpu.init kvm entry bootParams = (vcpu', .ok ())) :
    kvm.getRegs vcpu'.fd = .ok (bootRegs entry bootParams saved.regs) ∧
      kvm.getSregs vcpu'.fd = .ok (bootSregs (kvm.keptSregs saved.sregs)) := by
  obtain ⟨regs, sregs, hregs, hsregs, hregs', hsregs', -⟩ := Vcpu.init_spec hinit
  obtain rfl := Except.ok.inj (hregs.symm.trans hrestored.1)
  obtain rfl := Except.ok.inj (hsregs.symm.trans hrestored.2.1)
  exact ⟨hregs', hsregs'⟩

section

variable {host : MainHost F S X} {args : Args} {vm vm' : VirtualMachine V Q F S}
  {path : String} {bytes buffer : List UInt8} {state : VmState} {elf : Elf}

/-- **What `main` with `--restore-state` brings to `vm.run`**: memory with the blocks of the
snapshot and over them those of the kernel, and boot values over the saved registers. -/
theorem startup_spec (h : startup vmm vq kvm host args vm = (vm', none))
    (hpath : args.restoreState = some path)
    (hopen : host.snapshots.openFile host.fs path = .ok bytes)
    (hdecode : host.decode bytes = .ok state)
    (hread : host.kernels.readFile args.kernel = .ok buffer)
    (hparse : host.kernels.parse buffer = .ok elf) :
    vm'.memory.memory.bytes = patches (patches vm.memory.memory.bytes state.blocks)
        (loadedBlocks buffer elf kernelCmdline) ∧
      vm'.vcpus.length = vm.vcpus.length ∧
      ∀ (i : ℕ) (saved : VcpuState) (vcpu : Vcpu V), state.vcpuStates[i]? = some saved →
        vm'.vcpus[i]? = some vcpu →
          kvm.getRegs vcpu.fd = .ok (bootRegs elf.entry 0x7000 saved.regs) ∧
          kvm.getSregs vcpu.fd = .ok (bootSregs (kvm.keptSregs saved.sregs)) := by
  obtain ⟨vm₁, vm₂, hmem, hvcpus, hrestore, hload⟩ := startup_ok hpath h
  obtain ⟨bytes', state', hopen', hdecode', -, hbytes₂, hvcpus₂⟩ :=
    VirtualMachine.restoreState_ok hrestore
  obtain rfl := Except.ok.inj (hopen.symm.trans hopen')
  obtain rfl := Outcome.ok.inj (hdecode.symm.trans hdecode')
  obtain ⟨buffer', elf', hread', hparse', hbytes, hinit, -, -⟩ :=
    VirtualMachine.loadKernel_ok hload
  obtain rfl := Except.ok.inj (hread.symm.trans hread')
  obtain rfl := Except.ok.inj (hparse.symm.trans hparse')
  obtain ⟨hlen₂, hrestored⟩ := restoreVcpus_ok hvcpus₂
  have hinits := initVcpus_ok hinit
  refine ⟨by rw [hbytes, hbytes₂, hmem], by rw [← hinits.length_eq, hlen₂, hvcpus], ?_⟩
  intro i saved vcpu hsaved hvcpu
  obtain ⟨hi, rfl⟩ := List.getElem?_eq_some_iff.mp hvcpu
  have hi₂ : i < vm₂.vcpus.length := hinits.length_eq ▸ hi
  exact init_of_restored (hrestored i saved _ hsaved (List.getElem?_eq_getElem hi₂))
    (hinits.get hi₂ hi)

/-- **When a restored machine starts from its snapshot**: if `main` with `--restore-state`
reaches `vm.run`, memory and registers are those of the snapshot exactly when the kernel
leaves them intact. -/
theorem startup_from_snapshot_iff (h : startup vmm vq kvm host args vm = (vm', none))
    (hpath : args.restoreState = some path)
    (hopen : host.snapshots.openFile host.fs path = .ok bytes)
    (hdecode : host.decode bytes = .ok state)
    (hread : host.kernels.readFile args.kernel = .ok buffer)
    (hparse : host.kernels.parse buffer = .ok elf) :
    StartsFrom kvm state vm' ↔
      LeavesIntact kvm (loadedBlocks buffer elf kernelCmdline) elf.entry vm.vcpus.length state := by
  obtain ⟨hbytes, hlen, hregs⟩ := startup_spec h hpath hopen hdecode hread hparse
  constructor
  · rintro ⟨hmem, hreg⟩
    refine ⟨fun a b c hb => ?_, fun i saved hsaved hi => ?_⟩
    · have hab := hmem a b hb
      rw [hbytes, patches_patches_eq_iff hb] at hab
      exact hab c
    · rw [← hlen] at hi
      have hvcpu := List.getElem?_eq_getElem hi
      obtain ⟨hr, hs⟩ := hreg i saved _ hsaved hvcpu
      obtain ⟨hr', hs'⟩ := hregs i saved _ hsaved hvcpu
      exact ⟨Except.ok.inj (hr'.symm.trans hr), Except.ok.inj (hs'.symm.trans hs)⟩
  · rintro ⟨hmem, hreg⟩
    refine ⟨fun a b hb => ?_, fun i saved vcpu hsaved hvcpu => ?_⟩
    · rw [hbytes, patches_patches_eq_iff hb]
      exact fun c hc => hmem a b c hb hc
    · obtain ⟨hi, -⟩ := List.getElem?_eq_some_iff.mp hvcpu
      obtain ⟨hr, hs⟩ := hreg i saved hsaved (hlen ▸ hi)
      rw [← hr, ← hs]
      exact hregs i saved vcpu hsaved hvcpu

end

/-! ### A snapshot that is not started from -/

/-- A host on which everything succeeds, and every file decodes to this snapshot. The decoder of the
code itself refuses every snapshot, so that `main` never gets here with it
(`main_restore_never_runs`). -/
def MainHost.plain (state : VmState) :
    MainHost DiskFile Unit (String → Option (List UInt8)) where
  fileName := some
  hosts _ := AttachHost.plain
  snapshots := SnapshotFiles.plain
  decode _ := .ok state
  fs _ := some []
  kernels := KernelFiles.twoBytes

/-- `--restore-state` and no other option. -/
def Args.restoring : Args :=
  { Args.plain with restoreState := some "vm.snapshot" }

/-- The memory of a machine in which the kernel of two bytes has been loaded. -/
def loadedBytes : ℕ → UInt8 :=
  patches (fun _ => 0)
    (loadedBlocks [0x55, 0xAA] ⟨0x100000, [⟨ptLoad, 0, 0x100000, 2, 2⟩]⟩ kernelCmdline)

/-- With a snapshot of that memory and of a vCPU that was stopped at this address, `main` reaches
`vm.run` on that host. -/
theorem startup_plain (rip : UInt64) :
    ∃ (vm vm' : VirtualMachine PlainVcpu ScriptedQueue DiskFile Unit) (state : VmState),
      VirtualMachine.new VmMemory.mmap KvmHost.plain 1 = .ok vm ∧
      createSnapshot VmMemory.mmap PlainVcpu.kvm { vm.memory.memory with bytes := loadedBytes }
        [⟨.stoppedAt rip, 0⟩] = .ok state ∧
      startup VmMemory.mmap ScriptedQueue.queue PlainVcpu.kvm (MainHost.plain state)
        Args.restoring vm = (vm', none) := by
  obtain ⟨vm, hnew⟩ := VirtualMachine.new_plain
  obtain ⟨hL, -⟩ := VirtualMachine.new_spec hnew
  have hread : ∀ vcpu ∈ ([⟨.stoppedAt rip, 0⟩] : List (Vcpu PlainVcpu)),
      Readable PlainVcpu.kvm vcpu :=
    fun vcpu _ => ⟨⟨0, vcpu.fd.regs.kept, vcpu.fd.sregs, vcpu.fd.fpu.kept, []⟩, rfl, rfl, rfl⟩
  obtain ⟨state, hstate⟩ := createSnapshot_readable VmMemory.mmap PlainVcpu.kvm
    { vm.memory.memory with bytes := loadedBytes } hread
  obtain ⟨vm₁, hcall⟩ := vm.attach_plain .console
  have hattach : forList (mainStep ScriptedQueue.queue (MainHost.plain state).hosts)
      (Args.restoring.steps (MainHost.plain state).fileName).zipIdx vm = (vm₁, none) := by
    show forList (mainStep ScriptedQueue.queue fun _ => AttachHost.plain)
      [(.attach .console, 0)] vm = _
    simp only [forList, mainStep, hcall]
  obtain ⟨hmem₁, -⟩ := mainSteps_ok hattach
  obtain ⟨m₂, vcpus, hsnapshot, hL₂, -⟩ :=
    restoreSnapshot_created hstate (congrArg (·.memory.layout) hmem₁) vm₁.vcpus
  have hrestore : vm₁.restoreState VmMemory.mmap PlainVcpu.kvm (MainHost.plain state).snapshots
      (MainHost.plain state).decode (MainHost.plain state).fs "vm.snapshot" =
        ({ vm₁.withMemory m₂ with vcpus }, .ok ()) := by
    simp only [VirtualMachine.restoreState, loadWith, MainHost.plain, SnapshotFiles.plain,
      hsnapshot]
  have hL' : ({ vm₁.withMemory m₂ with vcpus } :
      VirtualMachine _ _ _ _).memory.memory.layout.regions.map (fun r => (r.start, r.len)) =
        [(0, memorySize)] :=
    (congrArg (·.regions.map fun r => (r.start, r.len)) hL₂).trans hL
  obtain ⟨vm', hload⟩ := VirtualMachine.loadKernel_twoBytes VmMemory.mmap "vmlinux" hL'
  have hload' : ({ vm₁.withMemory m₂ with vcpus } : VirtualMachine _ _ _ _).loadKernel
      VmMemory.mmap PlainVcpu.kvm (MainHost.plain state).kernels Args.restoring.kernel =
        (vm', .ok ()) := hload
  have hpath : Args.restoring.restoreState = some "vm.snapshot" := rfl
  exact ⟨vm, vm', state, hnew, hstate,
    by simp only [startup, hattach, hpath, hrestore, hload']⟩

/-- The registers in a snapshot of a vCPU that was stopped at this address. -/
theorem saved_stoppedAt {rip : UInt64} {states : List VcpuState} {saved : VcpuState}
    (hstates : [(⟨.stoppedAt rip, 0⟩ : Vcpu PlainVcpu)].mapM (saveVcpuState PlainVcpu.kvm) =
      .ok states) (hmem : saved ∈ states) :
    saved.regs = bootRegs rip 0x7000 default ∧ saved.sregs = bootSregs .reset := by
  obtain ⟨vcpu, hvcpu, hsave⟩ := mem_of_mapM_ok hstates hmem
  obtain rfl := List.mem_singleton.mp hvcpu
  obtain ⟨hregs, hsregs, -⟩ := saveVcpuState_ok hsave
  exact ⟨(Except.ok.inj hregs).symm.trans (bootRegs_kept _ _ _), (Except.ok.inj hsregs).symm⟩

/-- A snapshot of the loaded memory and of a vCPU at the entry point of the kernel is started
from. -/
theorem startup_from_snapshot_atEntry :
    ∃ (vm vm' : VirtualMachine PlainVcpu ScriptedQueue DiskFile Unit) (state : VmState),
      createSnapshot VmMemory.mmap PlainVcpu.kvm { vm.memory.memory with bytes := loadedBytes }
        [⟨.stoppedAt 0x100000, 0⟩] = .ok state ∧
      startup VmMemory.mmap ScriptedQueue.queue PlainVcpu.kvm (MainHost.plain state)
        Args.restoring vm = (vm', none) ∧
      StartsFrom PlainVcpu.kvm state vm' := by
  obtain ⟨vm, vm', state, -, hstate, hstart⟩ := startup_plain 0x100000
  obtain ⟨hsave, hstates⟩ := createSnapshot_ok hstate
  refine ⟨vm, vm', state, hstate, hstart,
    (startup_from_snapshot_iff hstart rfl rfl rfl rfl rfl).mpr
      ⟨fun a b c hb hc => ?_, fun i saved hsaved _ => ?_⟩⟩
  · -- the snapshot has the byte of the loaded memory, which is the one that the kernel has there
    have hsaved := lastWrite_saved hsave hb
    rw [hsaved]
    dsimp only
    rw [loadedBytes, patches_apply, hc, Option.getD_some]
  · obtain ⟨hregs, hsregs⟩ := saved_stoppedAt hstates (List.mem_of_getElem? hsaved)
    rw [hregs, hsregs]
    exact ⟨rfl, rfl⟩

/-- A snapshot of that memory and of a vCPU that has gone on by four bytes is not: the vCPU starts
at the entry point again. -/
theorem restored_rip_lost :
    ∃ (vm vm' : VirtualMachine PlainVcpu ScriptedQueue DiskFile Unit) (state : VmState),
      VirtualMachine.new VmMemory.mmap KvmHost.plain 1 = .ok vm ∧
      createSnapshot VmMemory.mmap PlainVcpu.kvm { vm.memory.memory with bytes := loadedBytes }
        [⟨.stoppedAt 0x100004, 0⟩] = .ok state ∧
      startup VmMemory.mmap ScriptedQueue.queue PlainVcpu.kvm (MainHost.plain state)
        Args.restoring vm = (vm', none) ∧
      ∃ vcpu ∈ vm'.vcpus, vcpu.fd.regs.rip = 0x100000 ∧
        ¬StartsFrom PlainVcpu.kvm state vm' := by
  obtain ⟨vm, vm', state, hnew, hstate, hstart⟩ := startup_plain 0x100004
  obtain ⟨-, hlen, hregs⟩ := startup_spec hstart rfl rfl rfl rfl rfl
  obtain ⟨-, -, -, -, hone⟩ := VirtualMachine.new_spec hnew
  have hi : 0 < vm'.vcpus.length := by
    rw [hlen, hone]
    decide
  have hvcpu := List.getElem?_eq_getElem hi
  have hstates := (createSnapshot_ok hstate).2
  obtain ⟨saved, hsaved, -⟩ := getElem?_of_mapM_ok hstates (i := 0) rfl
  have hrip : (vm'.vcpus[0]).fd.regs.rip = 0x100000 :=
    congrArg KvmRegs.rip (Except.ok.inj (hregs 0 saved _ hsaved hvcpu).1)
  refine ⟨vm, vm', state, hnew, hstate, hstart, vm'.vcpus[0], List.getElem_mem hi, hrip,
    fun hfrom => ?_⟩
  obtain ⟨hfrom, -⟩ := hfrom.registers 0 saved _ hsaved hvcpu
  have hold : (vm'.vcpus[0]).fd.regs.rip = 0x100004 := by
    have h := congrArg KvmRegs.rip (Except.ok.inj hfrom)
    rwa [(saved_stoppedAt hstates (List.mem_of_getElem? hsaved)).1] at h
  rw [hold] at hrip
  exact absurd hrip (by decide)

end MoVm
