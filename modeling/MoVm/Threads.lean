import MoVm.Lib.Trace
import MoVm.RunLoop
import Mathlib.Logic.Function.Basic

/-!
# The Threads of a Running Machine

The model of `VirtualMachine::run` and `VirtualMachine::stop` in `vm.rs` as a system of threads:
one for each vCPU, and the main thread, which starts them, watches for errors, waits for all of
them and then calls `stop`. They share the flags `running` and `error_occurred`, a channel of
errors, and a channel of messages to each vCPU.

A thread is where its program counter says, and each access to something shared is a step of its
own, so that a `Trace` of `RunState.Step` is an interleaving of the threads under sequential
consistency. What `KVM_RUN` returns is arbitrary; what `vcpu.run()` makes of it is `Vcpu.run`, of
which the steps in which it panics are left out, and so are the lines that `run` logs itself.

## Main results

* `RunInv`: the invariant of all threads together.
* `run_shutdown`: no thread stops before a vCPU has failed, all stop soon after, and nobody is
  ever sent a message.
* `run_hides_failures`: when `run` returns, some vCPU has failed and the result is `Ok`.
-/

open Lib

namespace MoVm

variable {V W : Type} {n : ℕ}

/-! ### The state -/

/-- What the main thread can send to a vCPU thread. -/
inductive VmMessage
  | stop
  | snapshotRequest (path : String)
deriving DecidableEq

/-- Why a vCPU thread has left its loop. -/
inductive LeaveReason
  /-- One of the two flags has ended it. -/
  | flags
  /-- It was told to stop. -/
  | stopped
  /-- `vcpu.run()` has returned an error. -/
  | failed (e : HypervisorError)

/-- Where a vCPU thread is in its loop. -/
inductive ThreadPc
  | unspawned
  | loadRunning
  | loadError
  | tryRecv
  /-- `KVM_RUN` has been issued. -/
  | inRun
  | handling (exit : VcpuExit)
  | sendError (e : HypervisorError)
  | storeError (e : HypervisorError)
  | left (why : LeaveReason)

/-- Where the main thread is in `run`, up to the end of `stop`. -/
inductive MainPc
  | enter
  | spawn (k : ℕ)
  | tryRecv
  | loadError
  | loadRunning
  | sleep
  | storeFalse
  | join
  | stopLoad
  | stopStore
  | stopSend (k : ℕ)
  | returned (result : Except HypervisorError Unit)

/-- The threads and what they share. The error channel carries the errors; the source sends
their text. -/
structure RunState (n : ℕ) where
  running : Bool
  errorOccurred : Bool
  errors : List HypervisorError
  main : MainPc
  threads : Fin n → ThreadPc
  messages : Fin n → List VmMessage

/-- Before `run` is called: no thread has been started. -/
def RunState.start (n : ℕ) (running : Bool) : RunState n where
  running := running
  errorOccurred := false
  errors := []
  main := .enter
  threads _ := .unspawned
  messages _ := []

/-- Who makes a step. -/
inductive Actor (n : ℕ)
  | main
  | vcpu (i : Fin n)

/-- What a step does that others, or an observer, can see. -/
inductive RunEvent
  | quiet
  /-- `KVM_RUN` is issued. -/
  | issued
  /-- `KVM_RUN` has returned, and `vcpu.run()` after it, with the answer of `get_regs` if it has
  asked for the registers. -/
  | ran (ran : Except String VcpuExit) (regs : Option (Except String KvmRegs))
      (result : Except HypervisorError VcpuExit)
  | received (message : VmMessage)
  | sentError (e : HypervisorError)
  | storedError

/-- What a step sends over the error channel. -/
def RunEvent.errors : RunEvent → List HypervisorError
  | .sentError e => [e]
  | _ => []

/-- The step sets `error_occurred`. -/
def RunEvent.stores : RunEvent → Bool
  | .storedError => true
  | _ => false

/-! ### The steps -/

/-- A step of a vCPU thread, on its program counter and its messages. -/
inductive ThreadStep (kvm : KvmVcpu V) (out : HostWriter W) (running errorOccurred : Bool) :
    ThreadPc → List VmMessage → ThreadPc → List VmMessage → RunEvent → Prop
  | loadRunning (ms : List VmMessage) :
      ThreadStep kvm out running errorOccurred .loadRunning ms
        (if running then .loadError else .left .flags) ms .quiet
  | loadError (ms : List VmMessage) :
      ThreadStep kvm out running errorOccurred .loadError ms
        (if errorOccurred then .left .flags else .tryRecv) ms .quiet
  | stop (ms : List VmMessage) :
      ThreadStep kvm out running errorOccurred .tryRecv (.stop :: ms) (.left .stopped) ms
        (.received .stop)
  /-- The first vCPU answers that snapshots are not implemented. -/
  | snapshotRequest (path : String) (ms : List VmMessage) :
      ThreadStep kvm out running errorOccurred .tryRecv (.snapshotRequest path :: ms) .loadRunning
        ms (.received (.snapshotRequest path))
  | issue : ThreadStep kvm out running errorOccurred .tryRecv [] .inRun [] .issued
  | ran (ms : List VmMessage) (vcpu : Vcpu V) (stdout : W) (ran : Except String VcpuExit)
      (exit : VcpuExit) (h : (vcpu.run kvm out ran stdout).2 = .ok exit) :
      ThreadStep kvm out running errorOccurred .inRun ms (.handling exit) ms
        (.ran ran (vcpu.askedRegs kvm ran) (.ok exit))
  | failed (ms : List VmMessage) (vcpu : Vcpu V) (stdout : W) (ran : Except String VcpuExit)
      (e : HypervisorError) (h : (vcpu.run kvm out ran stdout).2 = .err e) :
      ThreadStep kvm out running errorOccurred .inRun ms (.sendError e) ms
        (.ran ran (vcpu.askedRegs kvm ran) (.error e))
  /-- MMIO exits are handed to the devices. -/
  | handled (ms : List VmMessage) (exit : VcpuExit) :
      ThreadStep kvm out running errorOccurred (.handling exit) ms .loadRunning ms .quiet
  | sendError (ms : List VmMessage) (e : HypervisorError) :
      ThreadStep kvm out running errorOccurred (.sendError e) ms (.storeError e) ms (.sentError e)
  | storeError (ms : List VmMessage) (e : HypervisorError) :
      ThreadStep kvm out running errorOccurred (.storeError e) ms (.left (.failed e)) ms
        .storedError

/-- A step of the main thread. -/
inductive MonitorStep : RunState n → RunState n → Prop
  /-- `run` sets the flag and creates the channels. -/
  | enter {s : RunState n} (h : s.main = .enter) :
      MonitorStep s { s with
        running := true, errorOccurred := false, errors := [], messages := fun _ => []
        main := .spawn 0 }
  | spawn {s : RunState n} {k : ℕ} (h : s.main = .spawn k) (hk : k < n) :
      MonitorStep s { s with
        threads := Function.update s.threads ⟨k, hk⟩ .loadRunning, main := .spawn (k + 1) }
  | spawned {s : RunState n} (h : s.main = .spawn n) : MonitorStep s { s with main := .tryRecv }
  | recvError {s : RunState n} {e : HypervisorError} {rest : List HypervisorError}
      (h : s.main = .tryRecv) (he : s.errors = e :: rest) :
      MonitorStep s { s with errors := rest, main := .storeFalse }
  | recvEmpty {s : RunState n} (h : s.main = .tryRecv) (he : s.errors = []) :
      MonitorStep s { s with main := .loadError }
  | loadError {s : RunState n} (h : s.main = .loadError) :
      MonitorStep s { s with main := if s.errorOccurred then .storeFalse else .loadRunning }
  | loadRunning {s : RunState n} (h : s.main = .loadRunning) :
      MonitorStep s { s with main := if s.running then .sleep else .join }
  | sleep {s : RunState n} (h : s.main = .sleep) : MonitorStep s { s with main := .tryRecv }
  | storeFalse {s : RunState n} (h : s.main = .storeFalse) :
      MonitorStep s { s with running := false, main := .join }
  /-- The scope of the threads ends when all have ended. -/
  | join {s : RunState n} (h : s.main = .join) (hall : ∀ i, ∃ why, s.threads i = .left why) :
      MonitorStep s { s with main := .stopLoad }
  | stopLoad {s : RunState n} (h : s.main = .stopLoad) :
      MonitorStep s { s with main := if s.running then .stopStore else .returned (.ok ()) }
  | stopStore {s : RunState n} (h : s.main = .stopStore) :
      MonitorStep s { s with running := false, main := .stopSend 0 }
  | stopSend {s : RunState n} {k : ℕ} (h : s.main = .stopSend k) (hk : k < n) :
      MonitorStep s { s with
        messages := Function.update s.messages ⟨k, hk⟩ (s.messages ⟨k, hk⟩ ++ [.stop])
        main := .stopSend (k + 1) }
  | stopSent {s : RunState n} (h : s.main = .stopSend n) :
      MonitorStep s { s with main := .returned (.ok ()) }

/-- A step of one of the threads. -/
inductive RunState.Step (kvm : KvmVcpu V) (out : HostWriter W) :
    RunState n → Actor n → RunState n → RunEvent → Prop
  | main {s s' : RunState n} (h : MonitorStep s s') : RunState.Step kvm out s .main s' .quiet
  | vcpu {s : RunState n} {i : Fin n} {pc : ThreadPc} {ms : List VmMessage} {ev : RunEvent}
      (h : ThreadStep kvm out s.running s.errorOccurred (s.threads i) (s.messages i) pc ms ev) :
      RunState.Step kvm out s (.vcpu i)
        { s with
          errorOccurred := s.errorOccurred || ev.stores
          errors := s.errors ++ ev.errors
          threads := Function.update s.threads i pc
          messages := Function.update s.messages i ms } ev

/-! ### What a vCPU thread can do -/

/-- The error that `vcpu.run()` has returned to this thread, if it has. -/
def ThreadPc.failure : ThreadPc → Option HypervisorError
  | .sendError e => some e
  | .storeError e => some e
  | .left (.failed e) => some e
  | _ => none

namespace ThreadStep

variable {kvm : KvmVcpu V} {out : HostWriter W} {running errorOccurred : Bool}
  {pc pc' : ThreadPc} {ms ms' : List VmMessage} {ev : RunEvent}

/-- A failed thread remains failed. -/
theorem failure_of_failure (h : ThreadStep kvm out running errorOccurred pc ms pc' ms' ev)
    {e : HypervisorError} (he : pc.failure = some e) : pc'.failure = some e := by
  cases h with
  | sendError | storeError => exact he
  | _ => cases he

/-- A thread fails when `vcpu.run()` returns an error. -/
theorem failure_new (h : ThreadStep kvm out running errorOccurred pc ms pc' ms' ev)
    {e : HypervisorError} (he : pc'.failure = some e) :
    pc.failure = some e ∨ ∃ ran regs, ev = .ran ran regs (.error e) := by
  cases h with
  | loadRunning => cases running <;> cases he
  | loadError => cases errorOccurred <;> cases he
  | failed _ _ _ ran e' _ =>
      obtain rfl := Option.some.inj he
      exact .inr ⟨ran, _, rfl⟩
  | sendError | storeError => exact .inl he
  | _ => cases he

/-- Only a failed thread reports an error. -/
theorem failure_of_report (h : ThreadStep kvm out running errorOccurred pc ms pc' ms' ev)
    (hev : ev.errors ≠ [] ∨ ev.stores = true) : ∃ e, pc'.failure = some e := by
  cases h with
  | sendError _ e => exact ⟨e, rfl⟩
  | storeError _ e => exact ⟨e, rfl⟩
  | _ =>
      rcases hev with hev | hev
      · exact absurd rfl hev
      · cases hev

/-- A thread that is sent no message receives none. -/
theorem no_message (h : ThreadStep kvm out running errorOccurred pc ms pc' ms' ev)
    (hms : ms = []) : ms' = [] ∧ ∀ m, ev ≠ .received m := by
  cases h with
  | stop | snapshotRequest => cases hms
  | _ => exact ⟨hms, by rintro m ⟨⟩⟩

/-- A thread makes no step before it is started. -/
theorem not_unspawned (h : ThreadStep kvm out running errorOccurred pc ms pc' ms' ev) :
    pc ≠ .unspawned := by
  rintro rfl
  cases h

/-- A thread that has left its loop makes no more steps. -/
theorem not_left (h : ThreadStep kvm out running errorOccurred pc ms pc' ms' ev)
    (why : LeaveReason) : pc ≠ .left why := by
  rintro rfl
  cases h

end ThreadStep

/-! ### The invariant -/

/-- The main thread has left its loop, and is not in the part of `stop` that ends a machine that
is running. -/
def MainPc.Ended : MainPc → Prop
  | .join => True
  | .stopLoad => True
  | .returned _ => True
  | _ => False

/-- The main thread is in the part of `stop` that ends a machine that is running. -/
def MainPc.Stopping : MainPc → Prop
  | .stopStore => True
  | .stopSend _ => True
  | _ => False

/-- The main thread has waited for the vCPU threads. -/
def MainPc.Joined : MainPc → Prop
  | .stopLoad => True
  | .returned _ => True
  | _ => False

/-- The main thread goes on watching for errors. -/
def MainPc.InLoop : MainPc → Prop
  | .tryRecv => True
  | .loadError => True
  | .loadRunning => True
  | .sleep => True
  | _ => False

/-- The first vCPU thread that the main thread has still to start. -/
def MainPc.nextSpawn : MainPc → Option ℕ
  | .enter => some 0
  | .spawn k => some k
  | _ => none

/-- There is something to be seen of a failure. -/
def RunState.Alarm (s : RunState n) : Prop :=
  s.running = false ∨ s.errors ≠ [] ∨ s.errorOccurred = true ∨ s.main = .storeFalse

/-- **The invariant of the threads.** -/
structure RunInv (s : RunState n) : Prop where
  /-- Nobody is ever sent a message. -/
  messages : ∀ i, s.messages i = []
  unspawned : ∀ k, s.main.nextSpawn = some k → ∀ i : Fin n, k ≤ i → s.threads i = .unspawned
  /-- There is no alarm unless a vCPU has failed. -/
  alarm : s.main ≠ .enter → s.Alarm → ∃ i e, (s.threads i).failure = some e
  ended : s.main.Ended → s.running = false
  notStopping : ¬s.main.Stopping
  joined : s.main.Joined → ∀ i, ∃ why, s.threads i = .left why
  result : ∀ r, s.main = .returned r → r = .ok ()

theorem runInv_start (n : ℕ) (running : Bool) : RunInv (RunState.start n running) where
  messages _ := rfl
  unspawned _ _ _ _ := rfl
  alarm h := absurd rfl h
  ended h := h.elim
  notStopping h := h
  joined h := h.elim
  result _ h := by cases h

/-- A step of the main thread that leaves the vCPU threads alone and raises no new alarm. -/
theorem RunInv.move {s s' : RunState n} (hs : RunInv s) (hmain : s.main ≠ .enter)
    (hthreads : s'.threads = s.threads) (hmessages : s'.messages = s.messages)
    (hspawn : s'.main.nextSpawn = none) (halarm : s'.Alarm → s.Alarm)
    (hended : s'.main.Ended → s'.running = false) (hstopping : ¬s'.main.Stopping)
    (hjoined : s'.main.Joined → ∀ i, ∃ why, s.threads i = .left why)
    (hresult : ∀ r, s'.main = .returned r → r = .ok ()) : RunInv s' where
  messages i := by
    rw [hmessages]
    exact hs.messages i
  unspawned k hk := by
    rw [hspawn] at hk
    cases hk
  alarm _ ha := by
    rw [hthreads]
    exact hs.alarm hmain (halarm ha)
  ended := hended
  notStopping := hstopping
  joined := by
    rw [hthreads]
    exact hjoined
  result := hresult

/-- In the loop of the main thread, an alarm is one of the flags or of the channel. -/
theorem RunState.alarm_of_goto {s : RunState n} {pc : MainPc} (hpc : pc ≠ .storeFalse)
    (h : RunState.Alarm { s with main := pc }) : s.Alarm := by
  rcases h with h | h | h | h
  · exact .inl h
  · exact .inr (.inl h)
  · exact .inr (.inr (.inl h))
  · exact absurd h hpc

/-- The main thread moves on in its loop. -/
theorem RunInv.goto {s : RunState n} (hs : RunInv s) (hmain : s.main ≠ .enter) {pc : MainPc}
    (hpc : pc.InLoop) : RunInv { s with main := pc } := by
  refine hs.move hmain rfl rfl ?_ (RunState.alarm_of_goto ?_) ?_ ?_ ?_ ?_
  · cases pc with
    | enter | spawn => exact hpc.elim
    | _ => rfl
  · rintro rfl
    exact hpc
  · cases pc with
    | join | stopLoad | returned => exact hpc.elim
    | _ => exact False.elim
  · cases pc with
    | stopStore | stopSend => exact hpc.elim
    | _ => exact id
  · cases pc with
    | stopLoad | returned => exact hpc.elim
    | _ => exact False.elim
  · rintro r rfl
    exact hpc.elim

/-- The main thread starts a vCPU thread. -/
theorem RunInv.spawn {s : RunState n} (hs : RunInv s) {k : ℕ} (hmain : s.main = .spawn k)
    (hk : k < n) :
    RunInv { s with
      threads := Function.update s.threads ⟨k, hk⟩ .loadRunning, main := .spawn (k + 1) } where
  messages := hs.messages
  unspawned j hj i hi := by
    obtain rfl := Option.some.inj hj
    have hik : i ≠ ⟨k, hk⟩ := by
      rintro rfl
      exact absurd hi (Nat.not_succ_le_self k)
    have hfresh : s.threads i = .unspawned :=
      hs.unspawned k (by rw [hmain]; rfl) i (Nat.le_of_succ_le hi)
    exact (Function.update_of_ne hik _ _).trans hfresh
  alarm _ ha := by
    obtain ⟨i, e, he⟩ :=
      hs.alarm (by rw [hmain]; rintro ⟨⟩) (RunState.alarm_of_goto (by rintro ⟨⟩) ha)
    -- the thread that is started has not failed, so that this is another one
    have hik : i ≠ ⟨k, hk⟩ := by
      rintro rfl
      rw [hs.unspawned k (by rw [hmain]; rfl) _ (Nat.le_refl k)] at he
      cases he
    exact ⟨i, e, (congrArg ThreadPc.failure (Function.update_of_ne hik _ _)).trans he⟩
  ended h := h.elim
  notStopping := id
  joined h := h.elim
  result := by rintro r ⟨⟩

/-- The steps of the main thread. -/
theorem RunInv.main {s s' : RunState n} (hs : RunInv s) (h : MonitorStep s s') : RunInv s' := by
  have hne : ∀ {pc}, s.main = pc → pc ≠ .enter → s.main ≠ .enter := fun h hpc => h ▸ hpc
  cases h with
  | enter h =>
      refine ⟨fun _ => rfl, fun k hk i _ => ?_, fun _ ha => ?_, fun h => h.elim, id,
        fun h => h.elim, by rintro r ⟨⟩⟩
      · exact hs.unspawned 0 (by rw [h]; rfl) i (Nat.zero_le _)
      · rcases ha with ha | ha | ha | ha
        · cases ha
        · exact absurd rfl ha
        · cases ha
        · cases ha
  | spawn h hk => exact hs.spawn h hk
  | spawned h =>
      exact hs.goto (hne h (by rintro ⟨⟩)) trivial
  | recvError h he =>
      exact hs.move (hne h (by rintro ⟨⟩)) rfl rfl rfl
        (fun _ => .inr (.inl (by rw [he]; exact List.cons_ne_nil _ _)))
        (fun h => h.elim) id (fun h => h.elim) (by rintro r ⟨⟩)
  | recvEmpty h he =>
      exact hs.goto (hne h (by rintro ⟨⟩)) trivial
  | loadError h =>
      by_cases herr : s.errorOccurred = true
      · rw [if_pos herr]
        exact hs.move (hne h (by rintro ⟨⟩)) rfl rfl rfl (fun _ => .inr (.inr (.inl herr)))
          (fun h => h.elim) id (fun h => h.elim) (by rintro r ⟨⟩)
      · rw [if_neg herr]
        exact hs.goto (hne h (by rintro ⟨⟩)) trivial
  | loadRunning h =>
      by_cases hrun : s.running = true
      · rw [if_pos hrun]
        exact hs.goto (hne h (by rintro ⟨⟩)) trivial
      · rw [if_neg hrun]
        exact hs.move (hne h (by rintro ⟨⟩)) rfl rfl rfl (RunState.alarm_of_goto (by rintro ⟨⟩))
          (fun _ => Bool.eq_false_iff.mpr hrun) id (fun h => h.elim) (by rintro r ⟨⟩)
  | sleep h =>
      exact hs.goto (hne h (by rintro ⟨⟩)) trivial
  | storeFalse h =>
      exact hs.move (hne h (by rintro ⟨⟩)) rfl rfl rfl (fun _ => .inr (.inr (.inr h)))
        (fun _ => rfl) id (fun h => h.elim) (by rintro r ⟨⟩)
  | join h hall =>
      exact hs.move (hne h (by rintro ⟨⟩)) rfl rfl rfl (RunState.alarm_of_goto (by rintro ⟨⟩))
        (fun _ => hs.ended (by rw [h]; trivial)) id (fun _ => hall) (by rintro r ⟨⟩)
  | stopLoad h =>
      -- the flag is down already, so that `stop` has nothing to do
      have hrun : s.running = false := hs.ended (by rw [h]; trivial)
      rw [if_neg (by rw [hrun]; exact Bool.false_ne_true)]
      exact hs.move (hne h (by rintro ⟨⟩)) rfl rfl rfl (RunState.alarm_of_goto (by rintro ⟨⟩))
        (fun _ => hrun) id (fun _ => hs.joined (by rw [h]; trivial)) (by rintro r ⟨⟩; rfl)
  | stopStore h => exact absurd (by rw [h]; trivial) hs.notStopping
  | stopSend h hk => exact absurd (by rw [h]; trivial) hs.notStopping
  | stopSent h => exact absurd (by rw [h]; trivial) hs.notStopping

/-- A step of a vCPU thread that reports no error raises no alarm. -/
theorem RunState.alarm_of_no_report {s : RunState n} {ev : RunEvent}
    {threads : Fin n → ThreadPc} {messages : Fin n → List VmMessage}
    (hev : ¬(ev.errors ≠ [] ∨ ev.stores = true))
    (h : RunState.Alarm { s with
      errorOccurred := s.errorOccurred || ev.stores, errors := s.errors ++ ev.errors
      threads := threads, messages := messages }) : s.Alarm := by
  obtain ⟨herrors, hstores⟩ := not_or.mp hev
  rw [not_not.mp herrors, List.append_nil, Bool.eq_false_iff.mpr hstores, Bool.or_false] at h
  exact h

/-- The steps of the vCPU threads. -/
theorem RunInv.vcpu {s : RunState n} (hs : RunInv s) {kvm : KvmVcpu V} {out : HostWriter W}
    {i : Fin n} {pc : ThreadPc} {ms : List VmMessage} {ev : RunEvent}
    (h : ThreadStep kvm out s.running s.errorOccurred (s.threads i) (s.messages i) pc ms ev) :
    RunInv { s with
      errorOccurred := s.errorOccurred || ev.stores
      errors := s.errors ++ ev.errors
      threads := Function.update s.threads i pc
      messages := Function.update s.messages i ms } where
  messages := by
    refine (Function.forall_update_iff s.messages fun _ ms => ms = []).mpr ⟨?_, fun j _ => ?_⟩
    · exact (h.no_message (hs.messages i)).1
    · exact hs.messages j
  unspawned k hk j hkj := by
    have hfresh : s.threads j = .unspawned := hs.unspawned k hk j hkj
    have hj : j ≠ i := by
      rintro rfl
      exact h.not_unspawned hfresh
    exact (Function.update_of_ne hj _ _).trans hfresh
  alarm hmain ha := by
    by_cases hev : ev.errors ≠ [] ∨ ev.stores = true
    · obtain ⟨e, he⟩ := h.failure_of_report hev
      exact ⟨i, e, (congrArg ThreadPc.failure (Function.update_self _ _ _)).trans he⟩
    · have halarm : s.Alarm := RunState.alarm_of_no_report hev ha
      obtain ⟨j, e, he⟩ := hs.alarm hmain halarm
      by_cases hj : j = i
      · subst hj
        exact ⟨j, e, (congrArg ThreadPc.failure (Function.update_self _ _ _)).trans
          (h.failure_of_failure he)⟩
      · exact ⟨j, e, (congrArg ThreadPc.failure (Function.update_of_ne hj _ _)).trans he⟩
  ended := hs.ended
  notStopping := hs.notStopping
  joined hj := by
    obtain ⟨why, hwhy⟩ := hs.joined hj i
    exact absurd hwhy (h.not_left why)
  result := hs.result

/-- Every step of every thread keeps the invariant. -/
theorem RunInv.step {kvm : KvmVcpu V} {out : HostWriter W} {s s' : RunState n} {actor : Actor n}
    {ev : RunEvent} (hs : RunInv s) (h : RunState.Step kvm out s actor s' ev) : RunInv s' := by
  cases h with
  | main h => exact hs.main h
  | vcpu h => exact hs.vcpu h

/-! ### Where a failure comes from -/

/-- The main thread makes no vCPU fail. -/
theorem MonitorStep.failure {s s' : RunState n} (h : MonitorStep s s') {i : Fin n}
    {e : HypervisorError} (he : (s'.threads i).failure = some e) :
    (s.threads i).failure = some e := by
  cases h with
  | @spawn k h hk =>
      dsimp only at he
      by_cases hi : i = ⟨k, hk⟩
      · subst hi
        rw [Function.update_self] at he
        cases he
      · rwa [Function.update_of_ne hi] at he
  | _ => exact he

/-- A call of `vcpu.run()` by the vCPU `i` has returned the error `e`. -/
def FailedIn (i : Fin n) (e : HypervisorError) (calls : List (RunState n × Actor n × RunEvent)) :
    Prop :=
  ∃ x ∈ calls, ∃ ran regs, x.2 = (.vcpu i, .ran ran regs (.error e))

theorem FailedIn.append {i : Fin n} {e : HypervisorError}
    {calls : List (RunState n × Actor n × RunEvent)} (h : FailedIn i e calls)
    (more : List (RunState n × Actor n × RunEvent)) : FailedIn i e (calls ++ more) := by
  obtain ⟨x, hx, hran⟩ := h
  exact ⟨x, List.mem_append_left _ hx, hran⟩

section Run

variable {kvm : KvmVcpu V} {out : HostWriter W} {running : Bool} {s : RunState n}
  {calls : List (RunState n × Actor n × RunEvent)}

/-- A thread has failed only if `vcpu.run()` has returned the error to it. -/
theorem failedIn_of_failure
    (htrace : Trace (RunState.Step kvm out) (RunState.start n running) calls s) {i : Fin n}
    {e : HypervisorError} (he : (s.threads i).failure = some e) : FailedIn i e calls := by
  have hhistory := Trace.history
    (I := fun past s => ∀ i e, (s.threads i).failure = some e → FailedIn i e past)
    (fun past s actor s' ev hpast hstep i e he => by
      cases hstep with
      | main h => exact (hpast i e (h.failure he)).append _
      | @vcpu j pc ms _ h =>
          dsimp only at he
          by_cases hi : i = j
          · subst hi
            rw [Function.update_self] at he
            rcases h.failure_new he with he | ⟨ran, regs, rfl⟩
            · exact (hpast i e he).append _
            · exact ⟨_, List.mem_append_right _ (List.mem_singleton_self _), ran, regs, rfl⟩
          · rw [Function.update_of_ne hi] at he
            exact (hpast i e he).append _)
    htrace (by rintro i e ⟨⟩)
  exact hhistory.1 i e he

/-- What was wrong when `vcpu.run()` returned an error. -/
theorem cause_of_mem {t : RunState n} (htrace : Trace (RunState.Step kvm out) t calls s)
    {x : RunState n × Actor n × RunEvent} (hx : x ∈ calls) {i : Fin n}
    {ran : Except String VcpuExit} {regs : Option (Except String KvmRegs)} {e : HypervisorError}
    (hev : x.2 = (.vcpu i, .ran ran regs (.error e))) :
    (∃ m, ran = .error m) ∨
      ∃ exit m, ran = .ok exit ∧ exit.isPort = false ∧ regs = some (.error m) := by
  obtain ⟨t, hstep⟩ := htrace.step_of_mem hx
  obtain ⟨s', actor, ev⟩ := x
  obtain ⟨rfl, rfl⟩ := Prod.mk.inj hev
  cases hstep with
  | vcpu h =>
      dsimp only at h
      generalize s'.threads i = pc, s'.messages i = ms at h
      cases h with
      | failed _ vcpu stdout _ _ hrun => exact Vcpu.run_err hrun

/-! ### After the flag is set -/

/-- How often a thread can still issue `KVM_RUN` once `error_occurred` is set. -/
def ThreadPc.allowance : ThreadPc → ℕ
  | .tryRecv => 1
  | _ => 0

/-- The step issues `KVM_RUN`. -/
def RunEvent.issues : RunEvent → Bool
  | .issued => true
  | _ => false

/-- The step is one of the vCPU `i` and issues `KVM_RUN`. -/
def issuedBy (i : Fin n) : Actor n × RunEvent → Bool
  | (.main, _) => false
  | (.vcpu j, ev) => j = i && ev.issues

/-- How often the vCPU `i` issues `KVM_RUN`. -/
def issues (i : Fin n) (calls : List (RunState n × Actor n × RunEvent)) : ℕ :=
  (calls.map Prod.snd).countP (issuedBy i)

/-- The flag is set, and is not about to be created anew. -/
def RunState.ErrorSet (s : RunState n) : Prop :=
  s.errorOccurred = true ∧ s.main ≠ .enter

theorem MonitorStep.errorSet {s s' : RunState n} (h : MonitorStep s s') (hs : s.ErrorSet) :
    s'.ErrorSet := by
  obtain ⟨herr, hmain⟩ := hs
  cases h with
  | enter h => exact absurd h hmain
  | loadError | loadRunning | stopLoad => exact ⟨herr, by dsimp only; split <;> rintro ⟨⟩⟩
  | _ => exact ⟨herr, by rintro ⟨⟩⟩

theorem RunState.Step.errorSet {s s' : RunState n} {actor : Actor n} {ev : RunEvent}
    (hs : s.ErrorSet) (h : RunState.Step kvm out s actor s' ev) : s'.ErrorSet := by
  cases h with
  | main h => exact h.errorSet hs
  | vcpu h => exact ⟨by dsimp only; rw [hs.1, Bool.true_or], hs.2⟩

theorem ThreadStep.allowance {running : Bool} {pc pc' : ThreadPc} {ms ms' : List VmMessage}
    {ev : RunEvent} (h : ThreadStep kvm out running true pc ms pc' ms' ev) :
    ev.issues.toNat + pc'.allowance ≤ pc.allowance := by
  cases h with
  | loadRunning => cases running <;> exact Nat.le_refl 0
  | stop | snapshotRequest => exact Nat.zero_le _
  | issue => exact Nat.le_refl 1
  | _ => exact Nat.le_refl 0

theorem MonitorStep.allowance {s s' : RunState n} (h : MonitorStep s s') (i : Fin n) :
    (s'.threads i).allowance ≤ (s.threads i).allowance := by
  cases h with
  | @spawn k h hk =>
      dsimp only
      by_cases hi : i = ⟨k, hk⟩
      · subst hi
        rw [Function.update_self]
        exact Nat.zero_le _
      · exact Nat.le_of_eq (congrArg ThreadPc.allowance (Function.update_of_ne hi _ _))
  | _ => exact Nat.le_refl _

/-- Once the flag is set, each `KVM_RUN` that a thread issues uses up its allowance. -/
theorem RunState.Step.allowance {s s' : RunState n} {actor : Actor n} {ev : RunEvent}
    (hs : s.ErrorSet) (h : RunState.Step kvm out s actor s' ev) (i : Fin n) :
    (issuedBy i (actor, ev)).toNat + (s'.threads i).allowance ≤ (s.threads i).allowance := by
  cases h with
  | main h =>
      rw [issuedBy, Bool.toNat_false, Nat.zero_add]
      exact h.allowance i
  | @vcpu j pc ms _ h =>
      dsimp only
      by_cases hj : j = i
      · subst hj
        rw [hs.1] at h
        rw [issuedBy, decide_eq_true rfl, Bool.true_and, Function.update_self]
        exact h.allowance
      · rw [issuedBy, decide_eq_false hj, Bool.false_and, Bool.toNat_false, Nat.zero_add]
        exact Nat.le_of_eq (congrArg ThreadPc.allowance (Function.update_of_ne (Ne.symm hj) _ _))

theorem issues_le {t : RunState n} (htrace : Trace (RunState.Step kvm out) t calls s)
    (ht : t.ErrorSet) (i : Fin n) : issues i calls ≤ (t.threads i).allowance :=
  Trace.countP_le (fun s => (s.threads i).allowance) (issuedBy i)
    (fun _ _ _ _ hs h => h.errorSet hs) (fun _ _ _ _ hs h => h.allowance hs i) htrace ht

theorem ThreadPc.allowance_le (pc : ThreadPc) : pc.allowance ≤ 1 := by
  cases pc with
  | tryRecv => exact Nat.le_refl 1
  | _ => exact Nat.zero_le 1

/-- A thread makes its steps only after the main thread has started it. -/
theorem RunInv.main_ne_enter (hs : RunInv s) {i : Fin n} (hi : s.threads i ≠ .unspawned) :
    s.main ≠ .enter := by
  intro hmain
  exact hi (hs.unspawned 0 (by rw [hmain]; rfl) i (Nat.zero_le _))

/-- The step that sets the flag leaves it set, and its thread has no allowance. -/
theorem RunInv.storedError (hs : RunInv s) {s' : RunState n} {i : Fin n}
    (h : RunState.Step kvm out s (.vcpu i) s' .storedError) :
    s'.ErrorSet ∧ (s'.threads i).allowance = 0 := by
  cases h with
  | @vcpu _ pc ms _ h =>
      have hmain : s.main ≠ .enter := hs.main_ne_enter h.not_unspawned
      dsimp only
      rw [Function.update_self]
      refine ⟨⟨Bool.or_true _, hmain⟩, ?_⟩
      generalize s.threads i = pc', s.messages i = ms' at h
      cases h with
      | storeError => rfl

end Run

/-! ### A run of one vCPU -/

/-- A state of a machine with one vCPU. -/
def RunState.single (running errorOccurred : Bool) (errors : List HypervisorError) (main : MainPc)
    (pc : ThreadPc) : RunState 1 :=
  ⟨running, errorOccurred, errors, main, fun _ => pc, fun _ => []⟩

theorem update_single {α : Type} (f : Fin 1 → α) (i : Fin 1) (a : α) :
    Function.update f i a = fun _ => a := by
  funext j
  rw [Subsingleton.elim j i, Function.update_self]

section Single

variable {kvm : KvmVcpu V} {out : HostWriter W} {running errorOccurred : Bool}
  {errors : List HypervisorError} {main : MainPc} {pc pc' : ThreadPc} {ev : RunEvent}

theorem RunState.Step.single (h : ThreadStep kvm out running errorOccurred pc [] pc' [] ev) :
    RunState.Step kvm out (.single running errorOccurred errors main pc) (.vcpu 0)
      (.single running (errorOccurred || ev.stores) (errors ++ ev.errors) main pc') ev := by
  have hstep := RunState.Step.vcpu (s := .single running errorOccurred errors main pc) (i := 0) h
  rwa [update_single, update_single] at hstep

theorem RunState.Step.spawn_single :
    RunState.Step kvm out (.single running errorOccurred errors (.spawn 0) pc) .main
      (.single running errorOccurred errors (.spawn 1) .loadRunning) .quiet := by
  have hspawn := MonitorStep.spawn (s := .single running errorOccurred errors (.spawn 0) pc) rfl
    Nat.one_pos
  rw [update_single] at hspawn
  exact .main hspawn

/-- Steps that an observer sees as the given list. -/
def Runs (kvm : KvmVcpu V) (out : HostWriter W) (s : RunState n)
    (seen : List (Actor n × RunEvent)) (s' : RunState n) : Prop :=
  ∃ calls, Trace (RunState.Step kvm out) s calls s' ∧ calls.map Prod.snd = seen

theorem Runs.cons {s s' s'' : RunState n} {actor : Actor n} {seen : List (Actor n × RunEvent)}
    (h : RunState.Step kvm out s actor s' ev) (hrest : Runs kvm out s' seen s'') :
    Runs kvm out s ((actor, ev) :: seen) s'' := by
  obtain ⟨calls, htrace, rfl⟩ := hrest
  exact ⟨_, .cons h htrace, rfl⟩

/-- The visible steps of the run in which the only vCPU fails at once. -/
def failingRun (ran : Except String VcpuExit) (regs : Option (Except String KvmRegs))
    (e : HypervisorError) : List (Actor 1 × RunEvent) :=
  [(.main, .quiet), (.main, .quiet), (.main, .quiet), (.vcpu 0, .quiet), (.vcpu 0, .quiet),
    (.vcpu 0, .issued), (.vcpu 0, .ran ran regs (.error e)), (.vcpu 0, .sentError e),
    (.vcpu 0, .storedError), (.main, .quiet), (.main, .quiet), (.main, .quiet), (.main, .quiet)]

/-- There is such a run, to the end of `run`. -/
theorem runs_failingRun {vcpu : Vcpu V} {stdout : W} {ran : Except String VcpuExit}
    {e : HypervisorError} (h : (vcpu.run kvm out ran stdout).2 = .err e) :
    Runs kvm out (RunState.start 1 false) (failingRun ran (vcpu.askedRegs kvm ran) e)
      (.single false true [] (.returned (.ok ())) (.left (.failed e))) := by
  refine .cons (.main (.enter rfl)) ?_
  refine .cons .spawn_single ?_
  refine .cons (.main (.spawned rfl)) ?_
  refine .cons (.single (.loadRunning _)) ?_
  refine .cons (.single (.loadError _)) ?_
  refine .cons (.single .issue) ?_
  refine .cons (.single (.failed _ vcpu stdout ran e h)) ?_
  refine .cons (.single (.sendError _ e)) ?_
  refine .cons (.single (.storeError _ e)) ?_
  refine .cons (.main (.recvError rfl rfl)) ?_
  refine .cons (.main (.storeFalse rfl)) ?_
  refine .cons (.main (.join rfl fun _ => ⟨_, rfl⟩)) ?_
  refine .cons (.main (.stopLoad rfl)) ?_
  exact ⟨[], .nil _, rfl⟩

end Single

/-- A stream that takes everything. -/
def discardingWriter : HostWriter Unit where
  writeAll _ _ := ((), .ok ())
  flush _ := ((), .ok ())
  info _ _ := ()

theorem plainVcpu_run_err :
    (Vcpu.run PlainVcpu.kvm discardingWriter default (.error "Interrupted") ()).2 =
      .err (.kvmError "Interrupted") :=
  rfl

/-- A vCPU of which the general registers can be locked, until they are set again. -/
structure LockedVcpu where
  state : PlainVcpu
  locked : Bool

def LockedVcpu.kvm : KvmVcpu LockedVcpu where
  getRegs v := if v.locked then .error "Input/output error" else PlainVcpu.kvm.getRegs v.state
  setRegs v r := (⟨{ v.state with regs := r }, false⟩, .ok ())
  getSregs v := PlainVcpu.kvm.getSregs v.state
  setSregs v s := ({ v with state := (PlainVcpu.kvm.setSregs v.state s).1 }, .ok ())
  getFpu v := PlainVcpu.kvm.getFpu v.state
  setFpu v f := ({ v with state := (PlainVcpu.kvm.setFpu v.state f).1 }, .ok ())
  setMsrs v msrs :=
    ({ v with state := (PlainVcpu.kvm.setMsrs v.state msrs).1 }, .ok msrs.length)
  keptSregs s := s
  getRegs_setRegs _ := rfl
  getSregs_setSregs _ := rfl
  getFpu_setFpu _ := rfl
  getRegs_kept {v r} h := by
    split at h
    · cases h
    · exact PlainVcpu.kvm.getRegs_kept h
  getSregs_kept _ := rfl
  getFpu_kept h := PlainVcpu.kvm.getFpu_kept h
  keptSregs_rewrites _ _ := rfl
  setRegs_ok _ := rfl
  setSregs_ok _ := rfl
  setFpu_ok _ := rfl
  getSregs_setRegs _ _ := rfl
  getFpu_setRegs _ _ := rfl
  getRegs_setSregs _ _ := rfl
  getFpu_setSregs _ _ := rfl
  getRegs_setFpu _ _ := rfl
  getSregs_setFpu _ _ := rfl
  getRegs_setMsrs _ _ := rfl
  getSregs_setMsrs h _ := PlainVcpu.kvm.getSregs_setMsrs h rfl

/-! ### Whole runs -/

section Whole

variable {kvm : KvmVcpu V} {out : HostWriter W} {running : Bool} {s : RunState n}
  {calls : List (RunState n × Actor n × RunEvent)}

theorem RunInv.trace (htrace : Trace (RunState.Step kvm out) (RunState.start n running) calls s) :
    RunInv s ∧ ∀ x ∈ calls, RunInv x.1 :=
  Trace.inv (fun _ _ _ _ hs h => hs.step h) htrace (runInv_start n running)

/-- **No thread stops before a vCPU has failed, and all stop soon after.** At every point of every
interleaving: the flag `running` is up, once `run` has set it, unless some `vcpu.run()` has
returned an error, which is one of `KVM_RUN`, or of `get_regs` when `vcpu.run()` has asked for the
registers after an exit other than a port access. Once
`error_occurred` has been set, the thread that set it issues no more `KVM_RUN`, and every other
one at most one. No message is received. When `run` has returned, the flag is down and every
thread has left its loop. -/
theorem run_shutdown
    (htrace : Trace (RunState.Step kvm out) (RunState.start n running) calls s) :
    (s.main ≠ .enter → s.running = false →
      ∃ x ∈ calls, ∃ i ran regs e, x.2 = (.vcpu i, .ran ran regs (.error e)) ∧
        ((∃ m, ran = .error m) ∨
          ∃ exit m, ran = .ok exit ∧ exit.isPort = false ∧ regs = some (.error m))) ∧
    (∀ before x after i, calls = before ++ x :: after → x.2 = (.vcpu i, .storedError) →
      issues i after = 0 ∧ ∀ j, issues j after ≤ 1) ∧
    (∀ x ∈ calls, ∀ m, x.2.2 ≠ .received m) ∧
    (∀ r, s.main = .returned r → s.running = false ∧ ∀ i, ∃ why, s.threads i = .left why) := by
  obtain ⟨hinv, hinvs⟩ := RunInv.trace htrace
  refine ⟨fun hmain hrunning => ?_, ?_, fun x hx m => ?_, fun r hr => ?_⟩
  · obtain ⟨i, e, he⟩ := hinv.alarm hmain (.inl hrunning)
    obtain ⟨x, hx, ran, regs, hev⟩ := failedIn_of_failure htrace he
    exact ⟨x, hx, i, ran, regs, e, hev, cause_of_mem htrace hx hev⟩
  · rintro before ⟨t, actor, ev⟩ after i rfl hev
    obtain ⟨rfl, rfl⟩ := Prod.mk.inj hev
    obtain ⟨t', -, hstep, hafter⟩ := htrace.split
    have ht : RunInv t := hinvs _ (List.mem_append_right _ List.mem_cons_self)
    obtain ⟨hset, hzero⟩ := ht.storedError hstep
    refine ⟨Nat.le_zero.mp ?_, fun j => ?_⟩
    · exact hzero ▸ issues_le hafter hset i
    · exact Nat.le_trans (issues_le hafter hset j) (ThreadPc.allowance_le _)
  · obtain ⟨t, hstep⟩ := htrace.step_of_mem hx
    obtain ⟨s', actor, ev⟩ := x
    cases hstep with
    | main h => rintro ⟨⟩
    | vcpu h => exact (h.no_message ((hinvs _ hx).messages _)).2 m
  · exact ⟨hinv.ended (by rw [hr]; trivial), hinv.joined (by rw [hr]; trivial)⟩

theorem run_shutdown_failing :
    ∃ calls s, Trace (RunState.Step PlainVcpu.kvm discardingWriter) (RunState.start 1 false) calls
        s ∧ s.main = .returned (.ok ()) ∧
      (s.running = false ∧ ∃ why, s.threads 0 = .left why) ∧
      (∃ x ∈ calls, ∃ i ran regs e, x.2 = (.vcpu i, .ran ran regs (.error e)) ∧
        ∃ m, ran = .error m) ∧
      (∀ x ∈ calls, ∀ m, x.2.2 ≠ .received m) ∧
      ∃ before x after, calls = before ++ x :: after ∧ x.2 = (.vcpu 0, .storedError) ∧
        issues 0 after = 0 := by
  obtain ⟨calls, htrace, hseen⟩ := runs_failingRun plainVcpu_run_err
  obtain ⟨hrunning, hissues, hmessages, hreturned⟩ := run_shutdown htrace
  have hstored : (.vcpu 0, .storedError) ∈ calls.map Prod.snd := by
    rw [hseen]
    simp only [failingRun, List.mem_cons, true_or, or_true]
  obtain ⟨x, hx, hev⟩ := List.mem_map.mp hstored
  obtain ⟨before, after, hcalls⟩ := List.append_of_mem hx
  obtain ⟨y, hy, i, ran, regs, e, hran, hcause⟩ := hrunning (by rintro ⟨⟩) rfl
  refine ⟨calls, _, htrace, rfl, ?_, ⟨y, hy, i, ran, regs, e, hran, ?_⟩, hmessages, before, x,
    after, hcalls, hev, (hissues before x after 0 hcalls hev).1⟩
  · exact ⟨(hreturned _ rfl).1, (hreturned _ rfl).2 0⟩
  · rcases hcause with hcause | ⟨exit, m, -, -, rfl⟩
    · exact hcause
    · -- on this host `get_regs` always succeeds
      have hmem : y.2 ∈ failingRun (.error "Interrupted") none (.kvmError "Interrupted") :=
        hseen ▸ List.mem_map_of_mem hy
      rw [hran] at hmem
      simp [failingRun] at hmem

/-- A vCPU whose registers cannot be read makes the machine stop although no `KVM_RUN` has
failed. -/
theorem shutdown_without_kvmRun_error :
    ∃ calls s, Trace (RunState.Step LockedVcpu.kvm discardingWriter) (RunState.start 1 false) calls
        s ∧ s.main ≠ .enter ∧ s.running = false ∧
      ∀ x ∈ calls, ∀ m regs result, x.2.2 ≠ .ran (.error m) regs result := by
  have hrun : (Vcpu.run LockedVcpu.kvm discardingWriter ⟨⟨default, true⟩, 0⟩ (.ok (.other "Hlt"))
      ()).2 = .err (.kvmError "Input/output error") := rfl
  obtain ⟨calls, htrace, hseen⟩ := runs_failingRun hrun
  refine ⟨calls, _, htrace, by rintro ⟨⟩, rfl, fun x hx m regs result hev => ?_⟩
  have hmem : x.2 ∈ failingRun (.ok (.other "Hlt")) (some (.error "Input/output error"))
      (.kvmError "Input/output error") := hseen ▸ List.mem_map_of_mem hx
  obtain ⟨t, actor, ev⟩ := x
  obtain rfl : ev = .ran (.error m) regs result := hev
  simp [failingRun] at hmem

/-- **The caller of `run` never learns of a failure.** In every interleaving in which `run`
returns, some vCPU thread has left its loop because `vcpu.run()` returned an error, and the result
is `Ok`. -/
theorem run_hides_failures
    (htrace : Trace (RunState.Step kvm out) (RunState.start n running) calls s)
    {r : Except HypervisorError Unit} (hr : s.main = .returned r) :
    (∃ i e, s.threads i = .left (.failed e)) ∧ r = .ok () := by
  obtain ⟨hinv, -⟩ := RunInv.trace htrace
  refine ⟨?_, hinv.result r hr⟩
  have hrunning : s.running = false := hinv.ended (by rw [hr]; trivial)
  obtain ⟨i, e, he⟩ := hinv.alarm (by rw [hr]; rintro ⟨⟩) (.inl hrunning)
  obtain ⟨why, hwhy⟩ := hinv.joined (by rw [hr]; trivial) i
  rw [hwhy] at he
  cases why with
  | failed e' => exact ⟨i, e', hwhy⟩
  | flags | stopped => cases he

theorem run_hides_failures_failing :
    ∃ calls s, Trace (RunState.Step PlainVcpu.kvm discardingWriter) (RunState.start 1 false) calls
        s ∧ s.main = .returned (.ok ()) ∧
      ∃ i e, s.threads i = .left (.failed e) := by
  obtain ⟨calls, htrace, -⟩ := runs_failingRun plainVcpu_run_err
  exact ⟨calls, _, htrace, rfl, (run_hides_failures htrace rfl).1⟩

/-- The only vCPU fails because `KVM_RUN` does, and `run` returns `Ok`. -/
theorem failure_not_reported :
    ∃ calls s, Trace (RunState.Step PlainVcpu.kvm discardingWriter) (RunState.start 1 false) calls
        s ∧ s.threads 0 = .left (.failed (.kvmError "Interrupted")) ∧
      s.main = .returned (.ok ()) ∧ ∀ e, s.main ≠ .returned (.error e) := by
  obtain ⟨calls, htrace, -⟩ := runs_failingRun plainVcpu_run_err
  exact ⟨calls, _, htrace, rfl, rfl, by rintro e ⟨⟩⟩

end Whole

end MoVm
