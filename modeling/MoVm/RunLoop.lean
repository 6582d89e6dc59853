import MoVm.Transport

/-!
# Exits of a vCPU

What becomes of an exit of `KVM_RUN`: `Vcpu::run` of `vcpu.rs` answers port accesses itself and
hands the others on, and the loop of `VirtualMachine::run` in `vm.rs` hands MMIO accesses to the
devices whose windows contain the address.

A read exit comes with a buffer that is shared with KVM, and what the handlers leave in it is
what the guest gets. A port read has its first byte set to zero and nothing else; a device puts
a number of bytes at the front of the buffer that depends on the device and the offset, and all
errors are ignored. `answer_independent_iff` is the consequence: the guest sees what was left in
the buffer before unless some device fills all of it.
-/

open Lib

namespace MoVm

variable {V Q C F S W : Type}

/-! ### `Vcpu::run` -/

/-- Why `KVM_RUN` returned. The data of a read is the buffer to be filled. -/
inductive VcpuExit
  | ioIn (port : UInt16) (data : List UInt8)
  | ioOut (port : UInt16) (data : List UInt8)
  | mmioRead (addr : UInt64) (data : List UInt8)
  | mmioWrite (addr : UInt64) (data : List UInt8)
  /-- Any other exit, by the text of its `{:?}` format. -/
  | other (debug : String)
deriving DecidableEq

/-- A port access, which `Vcpu::run` answers itself. -/
def VcpuExit.isPort : VcpuExit → Bool
  | .ioIn _ _ => true
  | .ioOut _ _ => true
  | _ => false

/-- The `{:?}` format of an exit. -/
def VcpuExit.debug : VcpuExit → String
  | .ioIn port data => access "IoIn" port.toNat data
  | .ioOut port data => access "IoOut" port.toNat data
  | .mmioRead addr data => access "MmioRead" addr.toNat data
  | .mmioWrite addr data => access "MmioWrite" addr.toNat data
  | .other debug => debug
where
  access (name : String) (target : ℕ) (data : List UInt8) : String :=
    name ++ "(" ++ toString target ++ ", " ++ toString (data.map UInt8.toNat) ++ ")"

/-- What `Vcpu::run` logs about an exit that it hands on. -/
def VcpuExit.unhandled (exit : VcpuExit) (rip : UInt64) : String :=
  "Unhandled VcpuExit: " ++ exit.debug ++ " at RIP: 0x" ++ hex rip.toNat

/-- Set the first byte of a buffer to zero, if it has one. -/
def zeroFirst : List UInt8 → List UInt8
  | [] => []
  | _ :: rest => 0 :: rest

theorem zeroFirst_eq_overlay (data : List UInt8) : zeroFirst data = overlay [0] data := by
  cases data <;> simp [zeroFirst, overlay]

/-- `Vcpu::run`, with what `KVM_RUN` returned. Bytes written to the serial port go to the host;
a failure there is a panic. Exits other than port accesses are logged with the instruction pointer,
for which the registers are read. -/
def Vcpu.run (kvm : KvmVcpu V) (out : HostWriter W) (vcpu : Vcpu V)
    (ran : Except String VcpuExit) (stdout : W) : W × Outcome HypervisorError VcpuExit :=
  match ran with
  | .error e => (stdout, .err (.kvmError e))
  | .ok (.ioIn port data) => (stdout, .ok (.ioIn port (zeroFirst data)))
  | .ok (.ioOut port data) =>
      if port = 0x3F8 then
        match out.writeAll stdout data with
        | (stdout, .error _) => (stdout, .panic)
        | (stdout, .ok ()) =>
            match out.flush stdout with
            | (stdout, .error _) => (stdout, .panic)
            | (stdout, .ok ()) => (stdout, .ok (.ioOut port data))
      else (stdout, .ok (.ioOut port data))
  | .ok exit =>
      match kvm.getRegs vcpu.fd with
      | .error e => (stdout, .err (.kvmError e))
      | .ok regs => (out.info stdout (exit.unhandled regs.rip), .ok exit)

/-- What `get_regs` answers in a call of `Vcpu::run`, if it is asked. -/
def Vcpu.askedRegs (kvm : KvmVcpu V) (vcpu : Vcpu V) :
    Except String VcpuExit → Option (Except String KvmRegs)
  | .error _ => none
  | .ok exit => if exit.isPort then none else some (kvm.getRegs vcpu.fd)

/-- A call of `Vcpu::run` returns an error when `KVM_RUN` does, or when `get_regs` does after an
exit that is not a port access. -/
theorem Vcpu.run_err {kvm : KvmVcpu V} {out : HostWriter W} {vcpu : Vcpu V}
    {ran : Except String VcpuExit} {stdout : W} {e : HypervisorError}
    (h : (vcpu.run kvm out ran stdout).2 = .err e) :
    (∃ m, ran = .error m) ∨ ∃ exit m, ran = .ok exit ∧ exit.isPort = false ∧
      vcpu.askedRegs kvm ran = some (.error m) := by
  rcases ran with m | exit
  · exact .inl ⟨m, rfl⟩
  refine .inr ⟨exit, ?_⟩
  cases exit with
  | ioIn => cases h
  | ioOut port data =>
      by_cases hport : port = 0x3F8
      · rw [Vcpu.run, if_pos hport] at h
        split at h
        · cases h
        · split at h <;> cases h
      · rw [Vcpu.run, if_neg hport] at h
        cases h
  | mmioRead | mmioWrite | other =>
      cases hregs : kvm.getRegs vcpu.fd with
      | error m => exact ⟨m, rfl, rfl, congrArg some hregs⟩
      | ok regs =>
          simp only [Vcpu.run, hregs] at h
          cases h

/-! ### The loop of a vCPU thread -/

variable (env : DeviceEnv Q C F S W)

/-- An MMIO read is handed to every device whose window contains the address, in turn and into
the same buffer. -/
def mmioReadAll (devices : List (VirtioMmioDevice Q F S)) (addr : UInt64) (data : List UInt8) :
    List UInt8 :=
  devices.foldl
    (fun data dev =>
      if dev.window.Contains addr then (dev.mmioRead env (addr - dev.baseAddr) data).1 else data)
    data

/-- An MMIO write is handed to every device whose window contains the address. -/
def mmioWriteAll (fuel : ℕ) (addr : UInt64) (data : List UInt8) :
    List (VirtioMmioDevice Q F S) → W →
      (List (VirtioMmioDevice Q F S) × W) × Option (Outcome HypervisorError Unit)
  | [], output => (([], output), some (.ok ()))
  | dev :: devices, output =>
      if dev.window.Contains addr then
        match TransportState.mmioWrite env fuel { dev, output } (addr - dev.baseAddr) data with
        | (s, none) => ((s.dev :: devices, s.output), none)
        | (s, some .panic) => ((s.dev :: devices, s.output), some .panic)
        | (s, some _) =>
            match mmioWriteAll fuel addr data devices s.output with
            | ((devices, output), r) => ((s.dev :: devices, output), r)
      else
        match mmioWriteAll fuel addr data devices output with
        | ((devices, output), r) => ((dev :: devices, output), r)

/-- What the vCPU threads share: the devices, and the output stream of the host. -/
structure LoopState (Q F S W : Type) where
  devices : List (VirtioMmioDevice Q F S)
  stdout : W

/-- The body of the loop, from what `KVM_RUN` returned to the exit as the guest is resumed
from it. -/
def runStep (kvm : KvmVcpu V) (fuel : ℕ) (vcpu : Vcpu V) (ran : Except String VcpuExit)
    (s : LoopState Q F S W) :
    LoopState Q F S W × Option (Outcome HypervisorError VcpuExit) :=
  match vcpu.run kvm env.output ran s.stdout with
  | (stdout, .ok (.mmioRead addr data)) =>
      ({ s with stdout }, some (.ok (.mmioRead addr (mmioReadAll env s.devices addr data))))
  | (stdout, .ok (.mmioWrite addr data)) =>
      match mmioWriteAll env fuel addr data s.devices stdout with
      | ((devices, stdout), r) =>
          ({ devices, stdout }, r.map fun r => r.bind fun _ => .ok (.mmioWrite addr data))
  | (stdout, r) => ({ s with stdout }, some r)

/-! ### Reads -/

/-- What a guest can read from, apart from its memory. -/
inductive GuestRead
  | port (p : UInt16)
  | mmio (addr : UInt64)

/-- The exit of a read, with the buffer it comes with. -/
def GuestRead.exit (x : GuestRead) (data : List UInt8) : VcpuExit :=
  match x with
  | .port p => .ioIn p data
  | .mmio addr => .mmioRead addr data

/-- What is in the buffer when the guest is resumed. -/
def GuestRead.answer (x : GuestRead) (devices : List (VirtioMmioDevice Q F S))
    (data : List UInt8) : List UInt8 :=
  match x with
  | .port _ => zeroFirst data
  | .mmio addr => mmioReadAll env devices addr data

/-- The host's stream after the exit of a read: an MMIO access is logged. -/
def GuestRead.logged (x : GuestRead) (rip : UInt64) (data : List UInt8) (stdout : W) : W :=
  match x with
  | .port _ => stdout
  | .mmio _ => env.output.info stdout ((x.exit data).unhandled rip)

/-- The loop answers a read with `answer`, unless the thread ends because the registers of the
vCPU cannot be read. -/
theorem runStep_read {kvm : KvmVcpu V} {vcpu : Vcpu V} {regs : KvmRegs}
    (hregs : kvm.getRegs vcpu.fd = .ok regs) (fuel : ℕ) (x : GuestRead) (data : List UInt8)
    (s : LoopState Q F S W) :
    runStep env kvm fuel vcpu (.ok (x.exit data)) s =
      ({ s with stdout := x.logged env regs.rip data s.stdout },
        some (.ok (x.exit (x.answer env s.devices data)))) := by
  cases x with
  | port p => rfl
  | mmio addr =>
      simp only [runStep, Vcpu.run, GuestRead.exit, hregs, GuestRead.answer, GuestRead.logged]

/-- How many bytes a device puts in a buffer of `n` bytes. -/
def VirtioMmioDevice.reach (dev : VirtioMmioDevice Q F S) (offset : UInt64) (n : ℕ) : ℕ :=
  if 0x100 ≤ offset then dev.device.configReach (offset - 0x100).toNat n else 4

/-- The handlers fill a buffer of `n` bytes: for a port it has one byte only, and for an address
a device with a window there reaches to its end. -/
def GuestRead.Filled (x : GuestRead) (devices : List (VirtioMmioDevice Q F S)) (n : ℕ) : Prop :=
  match x with
  | .port _ => n = 1
  | .mmio addr => ∃ dev ∈ devices, dev.window.Contains addr ∧ n ≤ dev.reach (addr - dev.baseAddr) n

/-- A device copies bytes that do not depend on the buffer to its front. -/
theorem VirtioMmioDevice.mmioRead_data (dev : VirtioMmioDevice Q F S) (offset : UInt64) (n : ℕ) :
    ∃ src : List UInt8, src.length = dev.reach offset n ∧
      ∀ data : List UInt8, data.length = n →
        (dev.mmioRead env offset data).1 = overlay src data := by
  unfold reach mmioRead
  split
  · exact dev.device.readConfig_data (offset - 0x100) n
  · exact ⟨_, length_leBytes 4 _, fun _ _ => rfl⟩

/-- The devices fill the buffer one after the other, each from its front. -/
theorem mmioReadAll_eq_overlays (devices : List (VirtioMmioDevice Q F S)) (addr : UInt64)
    (n : ℕ) :
    ∃ srcs : List (List UInt8),
      ((∃ src ∈ srcs, n ≤ src.length) ↔ (GuestRead.mmio addr).Filled devices n) ∧
      ∀ data : List UInt8, data.length = n →
        mmioReadAll env devices addr data = overlays srcs data := by
  induction devices with
  | nil =>
      refine ⟨[], ?_, fun _ _ => rfl⟩
      simp only [GuestRead.Filled, List.not_mem_nil, false_and, exists_false]
  | cons dev devices ih =>
      obtain ⟨srcs, hfilled, hsrcs⟩ := ih
      by_cases hin : dev.window.Contains addr
      · obtain ⟨src, hlen, hsrc⟩ := dev.mmioRead_data env (addr - dev.baseAddr) n
        refine ⟨src :: srcs, ?_, fun data hdata => ?_⟩
        · rw [List.exists_mem_cons_iff, hfilled, hlen]
          simp only [GuestRead.Filled, List.exists_mem_cons_iff, hin, true_and]
        · rw [overlays_cons, ← hsrcs _ (by rw [length_overlay, hdata]), ← hsrc data hdata,
            mmioReadAll, List.foldl_cons, if_pos hin]
          rfl
      · refine ⟨srcs, ?_, fun data hdata => ?_⟩
        · rw [hfilled]
          simp only [GuestRead.Filled, List.exists_mem_cons_iff, hin, false_and, false_or]
        · rw [← hsrcs data hdata, mmioReadAll, List.foldl_cons, if_neg hin]
          rfl

/-- **Leftover bytes reach the guest** unless the buffer is filled: a read of `n` bytes is
answered independently of what was in the buffer exactly when its handlers fill all of it. -/
theorem answer_independent_iff (devices : List (VirtioMmioDevice Q F S)) (x : GuestRead) {n : ℕ}
    (hn : 0 < n) :
    (∀ data data' : List UInt8, data.length = n → data'.length = n →
      x.answer env devices data = x.answer env devices data') ↔ x.Filled devices n := by
  have hne : (0 : UInt8) ≠ 1 := by decide
  cases x with
  | port p =>
      have hport := overlays_independent_iff hne [[0]] hn
      simp only [overlays_cons, List.mem_singleton, exists_eq_left] at hport
      simp only [GuestRead.answer, zeroFirst_eq_overlay, GuestRead.Filled]
      refine hport.trans ?_
      show n ≤ 1 ↔ n = 1
      omega
  | mmio addr =>
      obtain ⟨srcs, hfilled, hsrcs⟩ := mmioReadAll_eq_overlays env devices addr n
      rw [← hfilled, ← overlays_independent_iff hne srcs hn]
      constructor
      · intro h data data' hlen hlen'
        rw [← hsrcs data hlen, ← hsrcs data' hlen']
        exact h data data' hlen hlen'
      · intro h data data' hlen hlen'
        simp only [GuestRead.answer, hsrcs data hlen, hsrcs data' hlen']
        exact h data data' hlen hlen'

/-- On the plain host a console can be attached to every machine. -/
theorem VirtualMachine.attach_gatedConsole
    (vm : VirtualMachine PlainVcpu GatedQueue DiskFile Unit) :
    ∃ dev, vm.attach GatedQueue.queue AttachHost.plain .console = (vm.push dev, .ok ()) ∧
      dev.window = { base := 0x1000, size := 0x1000 } ∧ dev.baseAddr = 0x1000 :=
  ⟨_, rfl, rfl, rfl⟩

/-- A read of four bytes at the base of the console's window. -/
theorem answer_independent_console :
    ∃ (vm : VirtualMachine PlainVcpu GatedQueue DiskFile Unit) (dev : _),
      vm.attach GatedQueue.queue AttachHost.plain .console = (vm.push dev, .ok ()) ∧
      ∀ data data' : List UInt8, data.length = 4 → data'.length = 4 →
        (GuestRead.mmio 0x1000).answer DeviceEnv.plain [dev] data =
          (GuestRead.mmio 0x1000).answer DeviceEnv.plain [dev] data' := by
  obtain ⟨vm, -⟩ := VirtualMachine.new_gated
  obtain ⟨dev, hattach, hwindow, hbase⟩ := vm.attach_gatedConsole
  refine ⟨vm, dev, hattach, ?_⟩
  refine (answer_independent_iff DeviceEnv.plain [dev] (.mmio 0x1000) (by decide)).mpr
    ⟨dev, List.mem_singleton_self dev, ?_, ?_⟩
  · rw [hwindow]
    decide
  · rw [hbase]
    exact Nat.le_refl 4

/-- A read of eight bytes at the base of the console's window gives the magic value and then
what was in the buffer before; so does a port read of two bytes from its second byte on. -/
theorem leftover_bytes_read :
    ∃ (vm : VirtualMachine PlainVcpu GatedQueue DiskFile Unit) (dev : _),
      vm.attach GatedQueue.queue AttachHost.plain .console = (vm.push dev, .ok ()) ∧
      dev.window.Contains 0x1000 ∧
      (GuestRead.mmio 0x1000).answer DeviceEnv.plain [dev] [0, 0, 0, 0, 0, 0, 0, 0] =
        [0x76, 0x69, 0x72, 0x74, 0, 0, 0, 0] ∧
      (GuestRead.mmio 0x1000).answer DeviceEnv.plain [dev] [1, 1, 1, 1, 1, 1, 1, 1] =
        [0x76, 0x69, 0x72, 0x74, 1, 1, 1, 1] ∧
      (GuestRead.port 0x60).answer DeviceEnv.plain [dev] [0, 0] = [0, 0] ∧
      (GuestRead.port 0x60).answer DeviceEnv.plain [dev] [1, 1] = [0, 1] := by
  obtain ⟨vm, -⟩ := VirtualMachine.new_gated
  obtain ⟨dev, hattach, hwindow, hbase⟩ := vm.attach_gatedConsole
  have hin : dev.window.Contains 0x1000 := by
    rw [hwindow]
    decide
  have hanswer : ∀ data, (GuestRead.mmio 0x1000).answer DeviceEnv.plain [dev] data =
      overlay [0x76, 0x69, 0x72, 0x74] data := by
    intro data
    have hval : dev.readRegister DeviceEnv.plain 0 = 0x74726976 := rfl
    have hbytes : leBytes 4 (0x74726976 : UInt32).toNat = [0x76, 0x69, 0x72, 0x74] := by decide
    simp only [GuestRead.answer, mmioReadAll, List.foldl_cons, List.foldl_nil, if_pos hin, hbase,
      UInt64.sub_self]
    rw [VirtioMmioDevice.mmioRead, if_neg (by decide), hval, hbytes]
  refine ⟨vm, dev, hattach, hin, ?_, ?_, rfl, rfl⟩
  · rw [hanswer]
    decide
  · rw [hanswer]
    decide

end MoVm
