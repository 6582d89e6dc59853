import MoVm.Lib.Simulation
import MoVm.Threads

/-!
# A Running Machine

`VirtualMachine::run` of `vm.rs` once more, now with what its threads do to the devices. The
threads and their loops are those of `Threads`; here an exit is handled in the steps the source
takes. Bytes for the serial port are written and then flushed, to the stream that exits other than
port accesses are logged to. For an MMIO exit a thread takes the
lock of the devices, hands the access to one device after the other, and releases the lock. A
thread can panic: the serial port unwraps the results of the host's stream, a device may panic with
the lock held, which poisons it, and a poisoned lock makes the next thread panic as well.

All devices work on one guest memory. The guest writes to it at any time while `KVM_RUN` is under
way, and a device sees it as it is when the device is reached.

## Main results

* `MachineState.Step.simulates`: without what happens to the devices, this is the system of
  `Threads`, of which a thread that has panicked makes no more steps.
* `LockInv`: exactly the holder of the lock is at a device.
* `panic_unnoticed`: no `run` returns once a vCPU thread has panicked, and nobody is told.
-/

open Lib

namespace MoVm

variable {V Q C F S W : Type} {n : ℕ}

/-! ### The state -/

/-- The lock of the list of devices. -/
inductive LockState (n : ℕ)
  | free
  | held (i : Fin n)
  | poisoned
deriving DecidableEq

/-- Where a thread is inside of `vcpu.run()` or of the handling of an exit. -/
inductive Inside
  | no
  /-- The bytes have been written to the host's stream, which is to be flushed. -/
  | flush (data : List UInt8)
  /-- The lock is held, and the device with this number is next. The buffer of the exit is what
  the devices before have left. -/
  | visit (exit : VcpuExit) (data : List UInt8) (k : ℕ)
  | panicked

/-- The threads of `Threads`, guest memory, the devices with their lock, and the output stream of
the host. -/
structure MachineState (n : ℕ) (Q F S W : Type) extends RunState n where
  memory : GuestMemory
  devices : List (VirtioMmioDevice Q F S)
  stdout : W
  lock : LockState n
  inside : Fin n → Inside
  /-- `run` has panicked: a scope of threads does when one of them has. -/
  mainPanicked : Bool

/-- Before `run` is called. -/
def MachineState.start (n : ℕ) (running : Bool) (memory : GuestMemory)
    (devices : List (VirtioMmioDevice Q F S)) (stdout : W) : MachineState n Q F S W where
  toRunState := RunState.start n running
  memory := memory
  devices := devices
  stdout := stdout
  lock := .free
  inside _ := .no
  mainPanicked := false

/-- What is to be seen of a step. -/
inductive MachineEvent
  /-- A step of the loops of the threads. -/
  | control (ev : RunEvent)
  /-- The guest has written to its memory. -/
  | guest
  /-- Bytes for the serial port were given to the host's stream. -/
  | wrote (data : List UInt8) (r : Except String Unit)
  | flushed (data : List UInt8) (r : Except String Unit)
  | locked
  | visited
  /-- The lock is released. The exit came with its own buffer and is resumed with this one. -/
  | answered (exit : VcpuExit) (data : List UInt8)
  | devicePanicked
  | lockPoisoned
  | scopePanicked

/-! ### One device -/

/-- The buffer that an exit comes with. -/
def VcpuExit.buffer : VcpuExit → List UInt8
  | .ioIn _ data => data
  | .ioOut _ data => data
  | .mmioRead _ data => data
  | .mmioWrite _ data => data
  | .other _ => []

/-- The loop hands this exit to the devices. -/
def VcpuExit.isMmio : VcpuExit → Bool
  | .mmioRead _ _ => true
  | .mmioWrite _ _ => true
  | _ => false

/-- The guest memory that a device works on. -/
def VirtioDevice.memory : VirtioDevice Q F S → GuestMemory
  | .console dev => dev.config.mem
  | .block dev => dev.config.mem
  | .net dev => dev.config.mem
  | .fs dev => dev.mem

def VirtioMmioDevice.withMemory (mem : GuestMemory) (dev : VirtioMmioDevice Q F S) :
    VirtioMmioDevice Q F S :=
  { dev with device := dev.device.withMemory mem }

/-- What a turn of the loop over the devices leaves. -/
structure Visit (Q F S W : Type) where
  dev : VirtioMmioDevice Q F S
  stdout : W
  data : List UInt8

/-- One turn of the loop over the devices. Errors are dropped. -/
def visitDevice (env : DeviceEnv Q C F S W) (fuel : ℕ) (exit : VcpuExit) (v : Visit Q F S W) :
    Visit Q F S W × Option (Outcome HypervisorError Unit) :=
  match exit with
  | .mmioRead addr _ =>
      if v.dev.window.Contains addr then
        ({ v with data := (v.dev.mmioRead env (addr - v.dev.baseAddr) v.data).1 }, some (.ok ()))
      else (v, some (.ok ()))
  | .mmioWrite addr data =>
      if v.dev.window.Contains addr then
        match TransportState.mmioWrite env fuel { dev := v.dev, output := v.stdout }
            (addr - v.dev.baseAddr) data with
        | (s, r) => ({ v with dev := s.dev, stdout := s.output }, r.map Outcome.ignoreErr)
      else (v, some (.ok ()))
  | _ => (v, some (.ok ()))

/-! ### The steps -/

/-- A vCPU thread moves on in its loop. -/
def RunState.advance (s : RunState n) (i : Fin n) (pc : ThreadPc) (ms : List VmMessage)
    (ev : RunEvent) : RunState n :=
  { s with
    errorOccurred := s.errorOccurred || ev.stores
    errors := s.errors ++ ev.errors
    threads := Function.update s.threads i pc
    messages := Function.update s.messages i ms }

/-- The host's stream after `vcpu.run()` has asked for the registers, or not, with this answer. -/
def logged (out : HostWriter W) (stdout : W) :
    Except String VcpuExit → Option (Except String KvmRegs) → W
  | .ok exit, some (.ok regs) => out.info stdout (exit.unhandled regs.rip)
  | _, _ => stdout

/-- What a step of the loops of the threads logs. -/
def RunEvent.log (out : HostWriter W) (stdout : W) : RunEvent → W
  | .ran exit regs _ => logged out stdout exit regs
  | _ => stdout

/-- The steps of a vCPU thread that are as in `Threads`: `KVM_RUN` has not returned with bytes for
the serial port, and no MMIO exit is handled. -/
def PlainStep (pc : ThreadPc) (ev : RunEvent) : Prop :=
  (∀ exit, pc = .handling exit → exit.isMmio = false) ∧
    ∀ data regs r, ev ≠ .ran (.ok (.ioOut 0x3F8 data)) regs r

/-- A step of one of the threads, or of the guest. -/
inductive MachineState.Step (env : DeviceEnv Q C F S W) (kvm : KvmVcpu V) :
    MachineState n Q F S W → Actor n → MachineState n Q F S W → MachineEvent → Prop
  | main {s : MachineState n Q F S W} {r : RunState n} (hmain : s.mainPanicked = false)
      (h : MonitorStep s.toRunState r) :
      MachineState.Step env kvm s .main { s with toRunState := r } (.control .quiet)
  /-- All threads have ended, one of them by a panic. -/
  | scopePanic {s : MachineState n Q F S W} (h : s.main = .join)
      (hall : ∀ i, (∃ why, s.threads i = .left why) ∨ s.inside i = .panicked)
      (hsome : ∃ i, s.inside i = .panicked) :
      MachineState.Step env kvm s .main { s with mainPanicked := true } .scopePanicked
  | loop {s : MachineState n Q F S W} {i : Fin n} {pc : ThreadPc} {ms : List VmMessage}
      {ev : RunEvent} (hin : s.inside i = .no) (hplain : PlainStep (s.threads i) ev)
      (h : ThreadStep kvm env.output s.running s.errorOccurred (s.threads i) (s.messages i)
        pc ms ev) :
      MachineState.Step env kvm s (.vcpu i)
        { s with
          toRunState := s.toRunState.advance i pc ms ev
          stdout := ev.log env.output s.stdout } (.control ev)
  | guest {s : MachineState n Q F S W} {i : Fin n} (mem : GuestMemory) (hin : s.inside i = .no)
      (hpc : s.threads i = .inRun) (hlayout : mem.layout = s.memory.layout) :
      MachineState.Step env kvm s (.vcpu i) { s with memory := mem } .guest
  | wrote {s : MachineState n Q F S W} {i : Fin n} (data : List UInt8) (w : W)
      (hin : s.inside i = .no) (hpc : s.threads i = .inRun)
      (h : env.output.writeAll s.stdout data = (w, .ok ())) :
      MachineState.Step env kvm s (.vcpu i)
        { s with stdout := w, inside := Function.update s.inside i (.flush data) }
        (.wrote data (.ok ()))
  | writeFailed {s : MachineState n Q F S W} {i : Fin n} (data : List UInt8) (w : W) (e : String)
      (hin : s.inside i = .no) (hpc : s.threads i = .inRun)
      (h : env.output.writeAll s.stdout data = (w, .error e)) :
      MachineState.Step env kvm s (.vcpu i)
        { s with stdout := w, inside := Function.update s.inside i .panicked }
        (.wrote data (.error e))
  | flushed {s : MachineState n Q F S W} {i : Fin n} (data : List UInt8) (w : W)
      (hin : s.inside i = .flush data) (h : env.output.flush s.stdout = (w, .ok ())) :
      MachineState.Step env kvm s (.vcpu i)
        { s with
          toRunState := s.toRunState.advance i (.handling (.ioOut 0x3F8 data)) (s.messages i) .quiet
          stdout := w
          inside := Function.update s.inside i .no }
        (.flushed data (.ok ()))
  | flushFailed {s : MachineState n Q F S W} {i : Fin n} (data : List UInt8) (w : W) (e : String)
      (hin : s.inside i = .flush data) (h : env.output.flush s.stdout = (w, .error e)) :
      MachineState.Step env kvm s (.vcpu i)
        { s with stdout := w, inside := Function.update s.inside i .panicked }
        (.flushed data (.error e))
  | lock {s : MachineState n Q F S W} {i : Fin n} {exit : VcpuExit} (hin : s.inside i = .no)
      (hpc : s.threads i = .handling exit) (hmmio : exit.isMmio = true) (hlock : s.lock = .free) :
      MachineState.Step env kvm s (.vcpu i)
        { s with
          lock := .held i
          inside := Function.update s.inside i (.visit exit exit.buffer 0) } .locked
  | lockPoisoned {s : MachineState n Q F S W} {i : Fin n} {exit : VcpuExit}
      (hin : s.inside i = .no) (hpc : s.threads i = .handling exit) (hmmio : exit.isMmio = true)
      (hlock : s.lock = .poisoned) :
      MachineState.Step env kvm s (.vcpu i)
        { s with inside := Function.update s.inside i .panicked } .lockPoisoned
  | visit {s : MachineState n Q F S W} {i : Fin n} {exit : VcpuExit} {data : List UInt8} {k : ℕ}
      {dev : VirtioMmioDevice Q F S} {v : Visit Q F S W} {r : Outcome HypervisorError Unit}
      (fuel : ℕ) (hin : s.inside i = .visit exit data k) (hdev : s.devices[k]? = some dev)
      (h : visitDevice env fuel exit ⟨dev.withMemory s.memory, s.stdout, data⟩ = (v, some r))
      (hr : r ≠ .panic) :
      MachineState.Step env kvm s (.vcpu i)
        { s with
          memory := v.dev.device.memory
          devices := s.devices.set k v.dev
          stdout := v.stdout
          inside := Function.update s.inside i (.visit exit v.data (k + 1)) } .visited
  | visitPanicked {s : MachineState n Q F S W} {i : Fin n} {exit : VcpuExit} {data : List UInt8}
      {k : ℕ} {dev : VirtioMmioDevice Q F S} {v : Visit Q F S W} (fuel : ℕ)
      (hin : s.inside i = .visit exit data k) (hdev : s.devices[k]? = some dev)
      (h : visitDevice env fuel exit ⟨dev.withMemory s.memory, s.stdout, data⟩ =
        (v, some .panic)) :
      MachineState.Step env kvm s (.vcpu i)
        { s with
          memory := v.dev.device.memory
          devices := s.devices.set k v.dev
          stdout := v.stdout
          lock := .poisoned
          inside := Function.update s.inside i .panicked } .devicePanicked
  | unlock {s : MachineState n Q F S W} {i : Fin n} {exit : VcpuExit} {data : List UInt8} {k : ℕ}
      (hin : s.inside i = .visit exit data k) (hend : s.devices[k]? = none) :
      MachineState.Step env kvm s (.vcpu i)
        { s with
          toRunState := s.toRunState.advance i .loadRunning (s.messages i) .quiet
          lock := .free
          inside := Function.update s.inside i .no } (.answered exit data)

/-! ### The threads are those of `Threads` -/

/-- What a step is in the system of `Threads`, if it is one there. -/
def runEvent : Actor n × MachineEvent → Option (Actor n × RunEvent)
  | (actor, .control ev) => some (actor, ev)
  | (actor, .flushed data (.ok ())) =>
      some (actor, .ran (.ok (.ioOut 0x3F8 data)) none (.ok (.ioOut 0x3F8 data)))
  | (actor, .answered _ _) => some (actor, .quiet)
  | _ => none

/-- Where a thread can be in its loop, given where it is inside of it. -/
def Inside.Fits (pc : ThreadPc) : Inside → Prop
  | .no => True
  | .flush _ => pc = .inRun
  | .visit exit _ _ => pc = .handling exit ∧ exit.isMmio = true
  | .panicked => pc = .inRun ∨ ∃ exit, pc = .handling exit

/-- The thread is in the loop over the devices. -/
def Inside.AtDevice : Inside → Prop
  | .visit _ _ _ => True
  | _ => False

/-- **The invariant of the lock**: a thread is inside of what its loop says, and exactly the
holder of the lock is in the loop over the devices. -/
structure LockInv (s : MachineState n Q F S W) : Prop where
  fits : ∀ i, (s.inside i).Fits (s.threads i)
  held : ∀ i, (s.inside i).AtDevice ↔ s.lock = .held i

theorem lockInv_start (n : ℕ) (running : Bool) (memory : GuestMemory)
    (devices : List (VirtioMmioDevice Q F S)) (stdout : W) :
    LockInv (MachineState.start n running memory devices stdout) where
  fits _ := trivial
  held _ := ⟨fun h => h.elim, fun h => by cases h⟩

/-- Unless there are bytes for the serial port, `vcpu.run()` uses the host's stream for its log
only. -/
theorem Vcpu.run_of_not_serial {W' : Type} (kvm : KvmVcpu V) (out : HostWriter W)
    (out' : HostWriter W') (vcpu : Vcpu V) {ran : Except String VcpuExit}
    (h : ∀ data, ran ≠ .ok (.ioOut 0x3F8 data)) (stdout : W) (stdout' : W') :
    vcpu.run kvm out ran stdout =
      (logged out stdout ran (vcpu.askedRegs kvm ran), (vcpu.run kvm out' ran stdout').2) := by
  rcases ran with e | (⟨port, data⟩ | ⟨port, data⟩ | _ | _ | _)
  · rfl
  · rfl
  · have hport : port ≠ 0x3F8 := by
      rintro rfl
      exact h data rfl
    simp only [Vcpu.run, if_neg hport]
    rfl
  all_goals
    simp only [Vcpu.run, Vcpu.askedRegs, VcpuExit.isPort, Bool.false_eq_true, if_false]
    cases kvm.getRegs vcpu.fd <;> rfl

/-- A plain step does not depend on the host's stream. -/
theorem ThreadStep.of_plain {kvm : KvmVcpu V} {out : HostWriter W} {running errorOccurred : Bool}
    {pc pc' : ThreadPc} {ms ms' : List VmMessage} {ev : RunEvent}
    (h : ThreadStep kvm out running errorOccurred pc ms pc' ms' ev) (hplain : PlainStep pc ev) :
    ThreadStep kvm discardingWriter running errorOccurred pc ms pc' ms' ev := by
  cases h with
  | loadRunning => exact .loadRunning _
  | loadError => exact .loadError _
  | stop => exact .stop _
  | snapshotRequest => exact .snapshotRequest _ _
  | issue => exact .issue
  | ran _ vcpu stdout ran exit h =>
      have hserial : ∀ data, ran ≠ .ok (.ioOut 0x3F8 data) := by
        rintro data rfl
        exact hplain.2 data _ _ rfl
      rw [Vcpu.run_of_not_serial kvm out discardingWriter vcpu hserial stdout ()] at h
      exact .ran _ vcpu () ran exit h
  | failed _ vcpu stdout ran e h =>
      have hserial : ∀ data, ran ≠ .ok (.ioOut 0x3F8 data) := by
        rintro data rfl
        exact hplain.2 data _ _ rfl
      rw [Vcpu.run_of_not_serial kvm out discardingWriter vcpu hserial stdout ()] at h
      exact .failed _ vcpu () ran e h
  | handled => exact .handled _ _
  | sendError => exact .sendError _ _
  | storeError => exact .storeError _ _

variable {env : DeviceEnv Q C F S W} {kvm : KvmVcpu V}

/-- **A step is one of `Threads`, or none there.** -/
theorem MachineState.Step.simulates [Inhabited V] {s s' : MachineState n Q F S W} {actor : Actor n}
    {ev : MachineEvent} (hs : LockInv s) (h : MachineState.Step env kvm s actor s' ev) :
    Matches (RunState.Step kvm discardingWriter) runEvent (fun s r => s.toRunState = r)
      s.toRunState (actor, ev) s' := by
  cases h with
  | main _ h => exact .inr ⟨_, _, _, rfl, .main h, rfl⟩
  | loop hin hplain h => exact .inr ⟨_, _, _, rfl, .vcpu (h.of_plain hplain), rfl⟩
  | @flushed i data w hin h =>
      have hpc : s.threads i = .inRun := by
        have := hs.fits i
        rwa [hin] at this
      refine .inr ⟨.vcpu i, .ran _ none (.ok (.ioOut 0x3F8 data)), _, rfl, .vcpu ?_, rfl⟩
      rw [hpc]
      exact .ran _ default () _ _ rfl
  | @unlock i exit data k hin hend =>
      have hpc : s.threads i = .handling exit := by
        have := hs.fits i
        rw [hin] at this
        exact this.1
      refine .inr ⟨.vcpu i, .quiet, _, rfl, .vcpu ?_, rfl⟩
      rw [hpc]
      exact .handled _ _
  | _ => exact .inl ⟨rfl, rfl⟩

/-! ### The lock -/

/-- A step of one thread keeps the invariant of the lock when it is right for that thread, and
says nothing new about the others. -/
theorem LockInv.move {s s' : MachineState n Q F S W} (hs : LockInv s) {i : Fin n} {x : Inside}
    (hinside : s'.inside = Function.update s.inside i x)
    (hthreads : ∀ j, j ≠ i → s'.threads j = s.threads j)
    (hfits : x.Fits (s'.threads i)) (hheld : x.AtDevice ↔ s'.lock = .held i)
    (hothers : ∀ j, j ≠ i → (s'.lock = .held j ↔ s.lock = .held j)) : LockInv s' where
  fits j := by
    rw [hinside]
    by_cases hj : j = i
    · subst hj
      rwa [Function.update_self]
    · rw [hthreads j hj, Function.update_of_ne hj]
      exact hs.fits j
  held j := by
    rw [hinside]
    by_cases hj : j = i
    · subst hj
      rwa [Function.update_self]
    · rw [Function.update_of_ne hj, hothers j hj]
      exact hs.held j

/-- A step that leaves the lock as it is. -/
theorem LockInv.stay {s s' : MachineState n Q F S W} (hs : LockInv s) {i : Fin n} {x : Inside}
    (hinside : s'.inside = Function.update s.inside i x)
    (hthreads : ∀ j, j ≠ i → s'.threads j = s.threads j)
    (hfits : x.Fits (s'.threads i)) (hlock : s'.lock = s.lock)
    (hheld : x.AtDevice ↔ (s.inside i).AtDevice) : LockInv s' := by
  refine hs.move hinside hthreads hfits ?_ fun j _ => by rw [hlock]
  rw [hheld, hlock]
  exact hs.held i

/-- A step of the holder that gives the lock away. -/
theorem LockInv.release {s s' : MachineState n Q F S W} (hs : LockInv s) {i : Fin n} {x : Inside}
    (hinside : s'.inside = Function.update s.inside i x)
    (hthreads : ∀ j, j ≠ i → s'.threads j = s.threads j)
    (hfits : x.Fits (s'.threads i)) (hi : (s.inside i).AtDevice) (hx : ¬x.AtDevice)
    (hlock : ∀ j, s'.lock ≠ .held j) : LockInv s' := by
  refine hs.move hinside hthreads hfits ⟨fun h => absurd h hx, fun h => absurd h (hlock i)⟩ ?_
  intro j hj
  rw [(hs.held i).mp hi]
  exact ⟨fun h => absurd h (hlock j), fun h => absurd (LockState.held.inj h).symm hj⟩

/-- The main thread changes a vCPU thread only by starting it. -/
theorem MonitorStep.threads {s r : RunState n} (hs : RunInv s) (h : MonitorStep s r) (i : Fin n) :
    r.threads i = s.threads i ∨ s.threads i = .unspawned := by
  cases h with
  | @spawn k h hk =>
      by_cases hi : i = ⟨k, hk⟩
      · subst hi
        exact .inr (hs.unspawned k (by rw [h]; rfl) _ (Nat.le_refl k))
      · exact .inl (Function.update_of_ne hi _ _)
  | _ => exact .inl rfl

/-- A thread that is not in the part of its loop that is modelled here is not inside of it. -/
theorem Inside.Fits.eq_no {pc : ThreadPc} {x : Inside} (h : x.Fits pc) (hrun : pc ≠ .inRun)
    (hexit : ∀ exit, pc ≠ .handling exit) : x = .no := by
  cases x with
  | no => rfl
  | flush => exact absurd h hrun
  | visit exit => exact absurd h.1 (hexit exit)
  | panicked =>
      rcases h with h | ⟨exit, h⟩
      · exact absurd h hrun
      · exact absurd h (hexit exit)

/-- **Every step keeps the invariant of the lock.** -/
theorem LockInv.step {s s' : MachineState n Q F S W} {actor : Actor n} {ev : MachineEvent}
    (hs : LockInv s) (hrun : RunInv s.toRunState) (h : MachineState.Step env kvm s actor s' ev) :
    LockInv s' := by
  have hother : ∀ {i : Fin n} {pc : ThreadPc} (j : Fin n), j ≠ i →
      Function.update s.threads i pc j = s.threads j := fun j hj => Function.update_of_ne hj _ _
  cases h with
  | @main r _ h =>
      refine ⟨fun i => ?_, hs.held⟩
      rcases h.threads hrun i with hi | hi
      · rw [hi]
        exact hs.fits i
      · have hno : s.inside i = .no :=
          (hs.fits i).eq_no (by rw [hi]; rintro ⟨⟩) (by rw [hi]; rintro exit ⟨⟩)
        dsimp only
        rw [hno]
        trivial
  | scopePanic | guest => exact ⟨hs.fits, hs.held⟩
  | @loop i pc ms ev hin hplain h =>
      refine hs.stay (x := .no) ?_ hother trivial rfl (by rw [hin])
      rw [← hin, Function.update_eq_self]
  | wrote _ _ hin hpc =>
      exact hs.stay rfl (fun _ _ => rfl) hpc rfl (by rw [hin]; exact Iff.rfl)
  | writeFailed _ _ _ hin hpc =>
      exact hs.stay rfl (fun _ _ => rfl) (.inl hpc) rfl (by rw [hin]; exact Iff.rfl)
  | flushed _ _ hin =>
      exact hs.stay rfl hother trivial rfl (by rw [hin]; exact Iff.rfl)
  | @flushFailed i _ _ _ hin =>
      have hfits := hs.fits i
      rw [hin] at hfits
      exact hs.stay rfl (fun _ _ => rfl) (.inl hfits) rfl (by rw [hin]; exact Iff.rfl)
  | @lock i exit hin hpc hmmio hlock =>
      refine hs.move rfl (fun _ _ => rfl) ⟨hpc, hmmio⟩ ⟨fun _ => rfl, fun _ => trivial⟩ ?_
      intro j hj
      rw [hlock]
      exact ⟨fun h => absurd (LockState.held.inj h).symm hj, fun h => by cases h⟩
  | @lockPoisoned i exit hin hpc =>
      exact hs.stay rfl (fun _ _ => rfl) (.inr ⟨exit, hpc⟩) rfl (by rw [hin]; exact Iff.rfl)
  | @visit i _ _ _ _ _ _ _ hin =>
      have hfits := hs.fits i
      rw [hin] at hfits
      exact hs.stay rfl (fun _ _ => rfl) hfits rfl (by rw [hin]; exact Iff.rfl)
  | @visitPanicked i exit _ _ _ _ _ hin =>
      have hfits := hs.fits i
      rw [hin] at hfits
      exact hs.release rfl (fun _ _ => rfl) (.inr ⟨exit, hfits.1⟩) (by rw [hin]; trivial) id
        (by rintro j ⟨⟩)
  | unlock hin =>
      exact hs.release rfl hother trivial (by rw [hin]; trivial) id (by rintro j ⟨⟩)

/-- The invariants of the threads and of the lock together. -/
theorem machineInv_step [Inhabited V] {s s' : MachineState n Q F S W} {actor : Actor n}
    {ev : MachineEvent} (hs : LockInv s ∧ RunInv s.toRunState)
    (h : MachineState.Step env kvm s actor s' ev) : LockInv s' ∧ RunInv s'.toRunState := by
  refine ⟨hs.1.step hs.2 h, ?_⟩
  rcases h.simulates hs.1 with ⟨-, hsame⟩ | ⟨_, _, _, -, hstep, rfl⟩
  · rw [hsame]
    exact hs.2
  · exact hs.2.step hstep

section Run

variable [Inhabited V] {running : Bool} {memory : GuestMemory}
  {devices : List (VirtioMmioDevice Q F S)} {stdout : W} {s : MachineState n Q F S W}
  {calls : List (MachineState n Q F S W × Actor n × MachineEvent)}

theorem machineInv_trace
    (htrace : Trace (MachineState.Step env kvm) (.start n running memory devices stdout) calls s) :
    (LockInv s ∧ RunInv s.toRunState) ∧ ∀ x ∈ calls, LockInv x.1 ∧ RunInv x.1.toRunState :=
  Trace.inv (fun _ _ _ _ hs h => machineInv_step hs h) htrace
    ⟨lockInv_start n running memory devices stdout, runInv_start n running⟩

/-- A run of the machine is a run of its threads. -/
theorem runTrace
    (htrace : Trace (MachineState.Step env kvm) (.start n running memory devices stdout) calls s) :
    ∃ calls', Trace (RunState.Step kvm discardingWriter) (.start n running) calls' s.toRunState ∧
      calls'.map Prod.snd = observed runEvent calls := by
  obtain ⟨r, calls', htrace', ⟨hr, -⟩, hobs⟩ := htrace.simulate
    (R := fun s r => s.toRunState = r ∧ LockInv s ∧ RunInv s.toRunState)
    (fun s r actor s' ev hR hstep => by
      obtain ⟨rfl, hinv⟩ := hR
      have hinv' := machineInv_step hinv hstep
      rcases hstep.simulates hinv.1 with ⟨hnone, hsame⟩ | ⟨a, b, r', hsome, hstep', hr'⟩
      · exact .inl ⟨hnone, hsame, hinv'⟩
      · exact .inr ⟨a, b, r', hsome, hstep', hr', hinv'⟩)
    (t := RunState.start n running)
    ⟨rfl, lockInv_start n running memory devices stdout, runInv_start n running⟩
  exact ⟨calls', hr ▸ htrace', hobs⟩

/-- Some `vcpu.run()` has returned an error. -/
def SomeFailed (calls : List (MachineState n Q F S W × Actor n × MachineEvent)) : Prop :=
  ∃ x ∈ calls, ∃ i ran regs e, x.2 = (.vcpu i, .control (.ran ran regs (.error e)))

/-- Unless some `vcpu.run()` has returned an error, `running` stays up once it is, no thread
leaves its loop and the main thread stays in its own. -/
theorem quiet_of_not_failed
    (htrace : Trace (MachineState.Step env kvm) (.start n running memory devices stdout) calls s)
    (h : ¬SomeFailed calls) (hmain : s.main ≠ .enter) : ¬s.toRunState.Alarm := by
  intro halarm
  obtain ⟨i, e, he⟩ := (machineInv_trace htrace).1.2.alarm hmain halarm
  obtain ⟨calls', htrace', hobs⟩ := runTrace htrace
  obtain ⟨x, hx, ran, regs, hev⟩ := failedIn_of_failure htrace' he
  have hmem : x.2 ∈ observed runEvent calls := hobs ▸ List.mem_map_of_mem hx
  rw [hev] at hmem
  obtain ⟨⟨t, actor, ev⟩, hy, hyev⟩ := mem_observed.mp hmem
  refine h ⟨_, hy, i, ran, regs, e, ?_⟩
  cases ev with
  | control ev =>
      obtain ⟨rfl, rfl⟩ := Prod.mk.inj (Option.some.inj hyev)
      rfl
  | flushed data r =>
      cases r with
      | ok => cases hyev
      | error => cases hyev
  | answered => cases hyev
  | _ => cases hyev

omit [Inhabited V] in
/-- When `run` panics, its main thread is at the end of the scope of its threads. -/
theorem main_of_mainPanicked
    (htrace : Trace (MachineState.Step env kvm) (.start n running memory devices stdout) calls s)
    (h : s.mainPanicked = true) : s.main = .join := by
  refine (htrace.inv (I := fun s => s.mainPanicked = true → s.main = .join) ?_ ?_).1 h
  · intro s actor s' ev hs hstep hpanic
    cases hstep with
    | main hmain =>
        rw [hmain] at hpanic
        cases hpanic
    | scopePanic h => exact h
    | _ => exact hs hpanic
  · rintro ⟨⟩

/-- **A panic of a vCPU thread goes unnoticed.** Once one has panicked, `run` never returns. And
unless some `vcpu.run()` returns an error, it does not panic either: both flags and the error
channel stay as they are without any failure, and the main thread goes on starting the other
threads and watching them. -/
theorem panic_unnoticed
    (htrace : Trace (MachineState.Step env kvm) (.start n running memory devices stdout) calls s)
    {i : Fin n} (hi : s.inside i = .panicked) :
    (∀ r, s.main ≠ .returned r) ∧
      (¬SomeFailed calls → s.running = true ∧ s.errorOccurred = false ∧ s.errors = [] ∧
        s.mainPanicked = false ∧ ((∃ k, s.main = .spawn k) ∨ s.main.InLoop)) := by
  obtain ⟨⟨hlock, hrun⟩, -⟩ := machineInv_trace htrace
  have hpc : s.threads i = .inRun ∨ ∃ exit, s.threads i = .handling exit := by
    have := hlock.fits i
    rwa [hi] at this
  refine ⟨fun r hr => ?_, fun hfailed => ?_⟩
  · -- the main thread would have waited for this one
    obtain ⟨why, hwhy⟩ := hrun.joined (by rw [hr]; trivial) i
    rcases hpc with h | ⟨exit, h⟩ <;> rw [h] at hwhy <;> cases hwhy
  · have hmain : s.main ≠ .enter := by
      refine hrun.main_ne_enter (i := i) ?_
      rcases hpc with h | ⟨exit, h⟩ <;> rw [h] <;> rintro ⟨⟩
    have hquiet := quiet_of_not_failed htrace hfailed hmain
    have hrunning : s.running = true := by
      cases h : s.running with
      | true => rfl
      | false => exact absurd (.inl h) hquiet
    have hnotEnded : ¬s.main.Ended := fun h => by
      rw [hrun.ended h] at hrunning
      cases hrunning
    refine ⟨hrunning, ?_, ?_, ?_, ?_⟩
    · cases h : s.errorOccurred with
      | false => rfl
      | true => exact absurd (.inr (.inr (.inl h))) hquiet
    · cases h : s.errors with
      | nil => rfl
      | cons e rest => exact absurd (.inr (.inl (by rw [h]; exact List.cons_ne_nil e rest))) hquiet
    · cases h : s.mainPanicked with
      | false => rfl
      | true => exact absurd (by rw [main_of_mainPanicked htrace h]; trivial) hnotEnded
    · have hnotStopping := hrun.notStopping
      cases h : s.main with
      | enter => exact absurd h hmain
      | spawn k => exact .inl ⟨k, rfl⟩
      | tryRecv | loadError | loadRunning | sleep => exact .inr trivial
      | storeFalse => exact absurd (.inr (.inr (.inr h))) hquiet
      | join | stopLoad | returned => exact absurd (by rw [h]; trivial) hnotEnded
      | stopStore | stopSend => exact absurd (by rw [h]; trivial) hnotStopping

end Run

/-! ### A thread that goes on -/

section Loop

variable {s : MachineState n Q F S W} {i : Fin n} {pc pc' : ThreadPc}

/-- A thread that is in its loop, and that nothing keeps from going on. -/
structure Looping (i : Fin n) (pc : ThreadPc) (s : MachineState n Q F S W) : Prop where
  running : s.running = true
  noError : s.errorOccurred = false
  messages : s.messages i = []
  pc : s.threads i = pc
  inside : s.inside i = .no

/-- A step of one thread leaves the others where they are, and the devices and their lock alone. -/
structure Aside (i : Fin n) (s s' : MachineState n Q F S W) : Prop where
  looping : ∀ {j pc}, j ≠ i → Looping j pc s → Looping j pc s'
  devices : s'.devices = s.devices
  lock : s'.lock = s.lock

theorem Aside.trans {s₁ s₂ s₃ : MachineState n Q F S W} (h : Aside i s₁ s₂) (h' : Aside i s₂ s₃) :
    Aside i s₁ s₃ where
  looping hj hs := h'.looping hj (h.looping hj hs)
  devices := h'.devices.trans h.devices
  lock := h'.lock.trans h.lock

/-- A step in the loop of a thread. -/
theorem Looping.turn {ev : RunEvent} (hs : Looping i pc s)
    (h : ThreadStep kvm env.output true false pc [] pc' [] ev) (hplain : PlainStep pc ev)
    (hstores : ev.stores = false) :
    ∃ s', MachineState.Step env kvm s (.vcpu i) s' (.control ev) ∧ Looping i pc' s' ∧
      Aside i s s' := by
  have hstep : ThreadStep kvm env.output s.running s.errorOccurred (s.threads i) (s.messages i)
      pc' [] ev := by
    rw [hs.running, hs.noError, hs.pc, hs.messages]
    exact h
  have hsame : (s.errorOccurred || ev.stores) = s.errorOccurred := by
    rw [hstores, Bool.or_false]
  refine ⟨_, .loop hs.inside (hs.pc.symm ▸ hplain) hstep, ⟨hs.running, hsame.trans hs.noError,
    Function.update_self .., Function.update_self .., hs.inside⟩, fun hj hs' => ?_, rfl, rfl⟩
  exact ⟨hs'.running, hsame.trans hs'.noError, (Function.update_of_ne hj _ _).trans hs'.messages,
    (Function.update_of_ne hj _ _).trans hs'.pc, hs'.inside⟩

/-- A thread that comes to the head of its loop issues `KVM_RUN` again. -/
theorem Looping.issue (hs : Looping i .loadRunning s) :
    ∃ calls s', Trace (MachineState.Step env kvm) s calls s' ∧
      calls.map Prod.snd = [(.vcpu i, .control .quiet), (.vcpu i, .control .quiet),
        (.vcpu i, .control .issued)] ∧
      Looping i .inRun s' ∧ Aside i s s' := by
  obtain ⟨s₁, h₁, hs₁, ha₁⟩ : ∃ s₁, MachineState.Step env kvm s (.vcpu i) s₁ (.control .quiet) ∧
      Looping i .loadError s₁ ∧ Aside i s s₁ :=
    hs.turn (.loadRunning _) ⟨nofun, nofun⟩ rfl
  obtain ⟨s₂, h₂, hs₂, ha₂⟩ := hs₁.turn (.loadError _) ⟨nofun, nofun⟩ rfl
  obtain ⟨s₃, h₃, hs₃, ha₃⟩ := hs₂.turn .issue ⟨nofun, nofun⟩ rfl
  exact ⟨_, s₃, .cons h₁ (.cons h₂ (.cons h₃ (.nil _))), rfl, hs₃, (ha₁.trans ha₂).trans ha₃⟩

end Loop

/-! ### A stream that fails -/

/-- A stream whose reader has gone. -/
def brokenWriter : HostWriter Unit where
  writeAll _ _ := ((), .error "Broken pipe")
  flush _ := ((), .ok ())
  info _ _ := ()

/-- The plain devices on a host with such a stream. -/
def DeviceEnv.broken : DeviceEnv GatedQueue ScriptedChain DiskFile Unit Unit where
  memory := DeviceEnv.plain.memory
  disk := DeviceEnv.plain.disk
  queue := DeviceEnv.plain.queue
  maxSize := DeviceEnv.plain.maxSize
  socket := DeviceEnv.plain.socket
  output := brokenWriter

/-- The only vCPU of a machine writes a byte to the serial port of such a host. -/
theorem trace_broken (memory : GuestMemory) :
    ∃ calls s, Trace (MachineState.Step (n := 1) DeviceEnv.broken PlainVcpu.kvm)
        (.start 1 false memory [] ()) calls s ∧
      calls.map (fun x => x.2.2) =
        [.control .quiet, .control .quiet, .control .quiet, .control .quiet, .control .quiet,
          .control .issued, .wrote [0x41] (.error "Broken pipe")] ∧
      s.inside 0 = .panicked := by
  refine ⟨_, _, .cons (.main rfl (.enter rfl)) <| .cons (.main rfl (.spawn rfl Nat.one_pos)) <|
    .cons (.main rfl (.spawned rfl)) <| .cons (.loop (i := 0) rfl ?_ (.loadRunning _)) <|
    .cons (.loop (i := 0) rfl ?_ (.loadError _)) <| .cons (.loop (i := 0) rfl ?_ .issue) <|
    .cons (.writeFailed (i := 0) [0x41] () "Broken pipe" rfl rfl rfl) (.nil _), rfl, rfl⟩
  all_goals exact ⟨by rintro exit ⟨⟩, by rintro data regs r ⟨⟩⟩

/-- The panic goes unnoticed there. -/
theorem panic_unnoticed_broken :
    ∃ calls s, Trace (MachineState.Step (n := 1) DeviceEnv.broken PlainVcpu.kvm)
        (.start 1 false (GuestMemory.page []) [] ()) calls s ∧ s.inside 0 = .panicked ∧
      (∀ r, s.main ≠ .returned r) ∧ s.running = true ∧ s.mainPanicked = false := by
  obtain ⟨calls, s, htrace, hevents, hi⟩ := trace_broken (GuestMemory.page [])
  obtain ⟨hreturned, hquiet⟩ := panic_unnoticed htrace hi
  have hfailed : ¬SomeFailed calls := by
    rintro ⟨x, hx, i, ran, regs, e, hev⟩
    have hmem : x.2.2 ∈ calls.map (fun x => x.2.2) := List.mem_map_of_mem hx
    rw [hevents, hev] at hmem
    simp only [List.mem_cons, MachineEvent.control.injEq, reduceCtorEq, List.not_mem_nil,
      or_self] at hmem
  obtain ⟨hrunning, -, -, hpanicked, -⟩ := hquiet hfailed
  exact ⟨calls, s, htrace, hi, hreturned, hrunning, hpanicked⟩

end MoVm
