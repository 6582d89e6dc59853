import MoVm.BlockCompletion
import MoVm.Receive
import MoVm.Transport

/-!
# Completions and Interrupts

A driver learns that a chain is in the used ring from an interrupt, which a device raises by
writing to its event file descriptor. The three devices do this in three ways: the console at the
end of a call that has taken a chain, the block device at the end of every call, and the network
device not at all. A call that returns an error in the middle of its loop raises none, also when
it has completed chains before.

`interrupt_iff` says exactly which calls raise an interrupt for the chains they complete, in terms
of what each iteration finds: its queue, guest memory, and what the host's socket answers. What is
assumed of the queues is `VirtioQueue.UsedRing` and `VirtioQueue.Acceptance`. A call *completes*
chains when the used rings of the device are not what they were before.
-/

open Lib

namespace MoVm

variable {Q C F S W T : Type} {vm : VmMemory} {hf : HostFile F} {vq : VirtioQueue Q C}
  {sock : HostSocket S} {out : HostWriter W}

/-! ### What the loops place -/

variable (vm vq) in
/-- **Inversion of the transmit loop's body**. -/
theorem sendStep_cases (keep : Descriptor → Bool) (deliver : T → List UInt8 → T)
    (s : SendState Q T) :
    (∃ e, vq.pop s.mem s.queue = .error e ∧ sendStep vm vq keep deliver s =
      .exit s (.error (.memoryError ("Failed to iterate queue: " ++ e)))) ∨
    (vq.pop s.mem s.queue = .ok none ∧ sendStep vm vq keep deliver s = .exit s (.ok ())) ∨
    ∃ chain q m' q' r, vq.pop s.mem s.queue = .ok (some (chain, q)) ∧
      vq.addUsed s.mem q (vq.headIndex chain)
        (UInt32.ofNat (collectChain vm vq keep s.mem chain).length) = (m', q', r) ∧
      sendStep vm vq keep deliver s =
        .next ⟨m', q', deliver s.sink (collectChain vm vq keep s.mem chain)⟩ := by
  rcases hpop : vq.pop s.mem s.queue with e | _ | ⟨chain, q⟩
  · exact .inl ⟨e, rfl, by simp only [sendStep, hpop]⟩
  · exact .inr (.inl ⟨rfl, by simp only [sendStep, hpop]⟩)
  · exact .inr (.inr ⟨chain, q, _, _, _, rfl, rfl, by simp only [sendStep, hpop]⟩)

/-- The entry that an iteration of a transmit loop places in the used ring. -/
def sendPlaced (vm : VmMemory) (vq : VirtioQueue Q C) (keep : Descriptor → Bool)
    (s : SendState Q T) : List (UInt16 × UInt32) :=
  match vq.pop s.mem s.queue with
  | .ok (some (chain, queue)) =>
      vq.placed s.mem queue (vq.headIndex chain)
        (UInt32.ofNat (collectChain vm vq keep s.mem chain).length)
  | _ => []

/-- The entry that an iteration of the receive loop places in the used ring. -/
def receivePlaced (vq : VirtioQueue Q C) (sock : HostSocket S) (s : ReceiveState Q S) :
    List (UInt16 × UInt32) :=
  match vq.pop s.mem s.queue with
  | .ok (some (chain, queue)) =>
      match (sock.recvFrom s.socket 1514).2 with
      | .datagram _ => vq.placed s.mem queue (vq.headIndex chain) 0
      | _ => []
  | _ => []

variable (vm) in
/-- The used ring after an iteration of a transmit loop. -/
theorem used_sendStep (ur : vq.UsedRing) (keep : Descriptor → Bool)
    (deliver : T → List UInt8 → T) (s : SendState Q T) :
    ur.used (sendStep vm vq keep deliver s).state.queue =
      ur.used s.queue ++ sendPlaced vm vq keep s := by
  rw [sendPlaced]
  rcases sendStep_cases vm vq keep deliver s with
    ⟨e, hpop, hstep⟩ | ⟨hpop, hstep⟩ | ⟨chain, q, m', q', r, hpop, hadd, hstep⟩
  · rw [hstep, hpop]
    exact (List.append_nil _).symm
  · rw [hstep, hpop]
    exact (List.append_nil _).symm
  · simp only [hstep, hpop, Flow.state_next]
    rw [← ur.pop_used hpop, ← ur.used_addUsed, hadd]

variable (sock) in
/-- The used ring after an iteration of the receive loop. -/
theorem used_receiveStep (ur : vq.UsedRing) (s : ReceiveState Q S) :
    ur.used (receiveStep vq sock s).state.queue =
      ur.used s.queue ++ receivePlaced vq sock s := by
  rw [receivePlaced]
  rcases receiveStep_cases vq sock s with ⟨e, hpop, hstep⟩ | ⟨hpop, hstep⟩ |
    ⟨chain, q, socket, hpop, ⟨hrecv, hstep⟩ | ⟨e, hrecv, hstep⟩ | ⟨bytes, hrecv, hstep⟩⟩
  · rw [hstep, hpop]
    exact (List.append_nil _).symm
  · rw [hstep, hpop]
    exact (List.append_nil _).symm
  · simp only [hstep, hpop, hrecv, Flow.state_exit, List.append_nil]
    exact ur.pop_used hpop
  · simp only [hstep, hpop, hrecv, Flow.state_exit, List.append_nil]
    exact ur.pop_used hpop
  · simp only [hstep, hpop, hrecv, Flow.state_next]
    rw [ur.used_addUsed, ur.pop_used hpop]

/-! ### What the iterations find -/

/-- An iteration of a transmit loop completes the chain that its queue takes back. -/
theorem sendPlaced_ne_nil_iff (ac : vq.Acceptance) (keep : Descriptor → Bool) (s : SendState Q T) :
    sendPlaced vm vq keep s ≠ [] ↔ ac.Takes s.mem s.queue := by
  rw [sendPlaced]
  rcases hpop : vq.pop s.mem s.queue with e | _ | ⟨chain, q⟩
  · exact iff_of_false (fun h => h rfl) (ac.not_takes_of_error hpop)
  · exact iff_of_false (fun h => h rfl) (ac.not_takes_of_none hpop)
  · exact (ac.placed_ne_nil_iff _ _ _ _).trans (ac.takes_iff hpop).symm

/-- An iteration of a transmit loop fails when its queue cannot be iterated. -/
theorem sendStep_error_iff (keep : Descriptor → Bool) (deliver : T → List UInt8 → T)
    (s : SendState Q T) :
    (∃ t err, sendStep vm vq keep deliver s = .exit t (.error err)) ↔
      ∃ e, vq.pop s.mem s.queue = .error e := by
  rcases sendStep_cases vm vq keep deliver s with
    ⟨e, hpop, hstep⟩ | ⟨hpop, hstep⟩ | ⟨chain, q, m', q', r, hpop, -, hstep⟩
  · exact iff_of_true ⟨_, _, hstep⟩ ⟨e, hpop⟩
  · simp only [hstep, hpop, Flow.exit.injEq, reduceCtorEq, and_false, exists_false]
  · simp only [hstep, hpop, reduceCtorEq, exists_false]

/-- An iteration of the receive loop completes the chain that its queue takes back when a datagram
is waiting. -/
theorem receivePlaced_ne_nil_iff (ac : vq.Acceptance) (s : ReceiveState Q S) :
    receivePlaced vq sock s ≠ [] ↔
      ac.Takes s.mem s.queue ∧ ∃ bytes, (sock.recvFrom s.socket 1514).2 = .datagram bytes := by
  rw [receivePlaced]
  rcases hpop : vq.pop s.mem s.queue with e | _ | ⟨chain, q⟩
  · exact iff_of_false (fun h => h rfl) fun h => ac.not_takes_of_error hpop h.1
  · exact iff_of_false (fun h => h rfl) fun h => ac.not_takes_of_none hpop h.1
  · rw [ac.takes_iff hpop]
    dsimp only
    rcases (sock.recvFrom s.socket 1514).2 with bytes | _ | e
    · exact (ac.placed_ne_nil_iff _ _ _ _).trans (and_iff_left ⟨bytes, rfl⟩).symm
    · simp only [ne_eq, not_true_eq_false, reduceCtorEq, exists_false, and_false]
    · simp only [ne_eq, not_true_eq_false, reduceCtorEq, exists_false, and_false]

/-- The descriptors that an iteration of the block device meets begin in guest memory. -/
def VirtioBlock.Readable (vm : VmMemory) (hf : HostFile F) (vq : VirtioQueue Q C) (readOnly : Bool)
    (blockSize : UInt32) (s : QueueState Q F) : Prop :=
  ∀ x ∈ VirtioBlock.stepRequests vm hf vq readOnly blockSize s,
    s.mem.layout.Covers x.2.addr.toNat 4

/-- A chain that is popped is served when its descriptors can be read. -/
theorem VirtioBlock.readable_iff {readOnly : Bool} {blockSize : UInt32} {s : QueueState Q F}
    {chain : C} {q : Q} (hpop : vq.pop s.mem s.queue = .ok (some (chain, q))) :
    VirtioBlock.Readable vm hf vq readOnly blockSize s ↔
      ∃ status, (serveChain vm hf vq readOnly blockSize ⟨s.mem, s.disk⟩ chain).2 = .ok status := by
  rw [Readable, VirtioBlock.stepRequests_of_pop hpop]
  exact (serveChain_isOk_iff vm hf vq readOnly blockSize _ chain).symm

/-- An iteration of the block device completes the chain that its queue takes back when the
descriptors can be read. -/
theorem VirtioBlock.stepPlaced_ne_nil_iff (ac : vq.Acceptance) {readOnly : Bool}
    {blockSize : UInt32} (s : QueueState Q F) :
    VirtioBlock.stepPlaced vm hf vq readOnly blockSize s ≠ [] ↔
      ac.Takes s.mem s.queue ∧ VirtioBlock.Readable vm hf vq readOnly blockSize s := by
  rcases hpop : vq.pop s.mem s.queue with e | _ | ⟨chain, q⟩
  · refine iff_of_false (fun h => h ?_) fun h => ac.not_takes_of_error hpop h.1
    rw [stepPlaced, hpop]
  · refine iff_of_false (fun h => h ?_) fun h => ac.not_takes_of_none hpop h.1
    rw [stepPlaced, hpop]
  · have hL := layout_serveChain vm hf vq readOnly blockSize ⟨s.mem, s.disk⟩ chain
    rw [ac.takes_iff hpop, readable_iff hpop, stepPlaced, hpop]
    dsimp only
    rcases hserve : serveChain vm hf vq readOnly blockSize ⟨s.mem, s.disk⟩ chain with
      ⟨r, e | status⟩
    · simp only [ne_eq, not_true_eq_false, reduceCtorEq, exists_false, and_false]
    · rw [hserve] at hL
      refine (ac.placed_ne_nil_iff _ _ _ _).trans ?_
      rw [hL]
      exact (and_iff_left ⟨status, rfl⟩).symm

/-- An iteration of the block device fails when its queue cannot be iterated, or does not take
back the chain it has available, or a descriptor of this chain cannot be read. -/
theorem VirtioBlock.queueStep_error_iff (ac : vq.Acceptance) {readOnly : Bool} {blockSize : UInt32}
    (s : QueueState Q F) :
    (∃ t err, queueStep vm hf vq readOnly blockSize s = .exit t (.error err)) ↔
      (∃ e, vq.pop s.mem s.queue = .error e) ∨
        ∃ chain q, vq.pop s.mem s.queue = .ok (some (chain, q)) ∧
          ¬(ac.Takes s.mem s.queue ∧ VirtioBlock.Readable vm hf vq readOnly blockSize s) := by
  rcases queueStep_cases vm hf vq readOnly blockSize s with
    ⟨e, hpop, hstep⟩ | ⟨hpop, hstep⟩ |
      ⟨chain, q, r, hpop, ⟨e, hserve, hstep⟩ | ⟨status, hserve, hstep⟩⟩
  · exact iff_of_true ⟨_, _, hstep⟩ (.inl ⟨e, hpop⟩)
  · simp only [hstep, hpop, Flow.exit.injEq, reduceCtorEq, and_false, exists_false, Except.ok.injEq,
      false_and, or_self]
  · refine iff_of_true ⟨_, _, hstep⟩ (.inr ⟨chain, q, hpop, fun h => ?_⟩)
    obtain ⟨status, hstatus⟩ := (readable_iff hpop).mp h.2
    rw [hserve] at hstatus
    cases hstatus
  · have hL := layout_serveChain vm hf vq readOnly blockSize ⟨s.mem, s.disk⟩ chain
    have hok := ac.addUsed_ok_iff r.mem q (vq.headIndex chain) status.toUInt32
    rw [hserve] at hL
    rw [hL, ← ac.takes_iff hpop] at hok
    have hread : VirtioBlock.Readable vm hf vq readOnly blockSize s :=
      (readable_iff hpop).mpr ⟨status, congrArg Prod.snd hserve⟩
    rw [hstep, completeChain, hpop]
    rcases hadd : vq.addUsed r.mem q (vq.headIndex chain) status.toUInt32 with ⟨m', q', e | ⟨⟩⟩
    · rw [hadd] at hok
      refine iff_of_true ⟨_, _, rfl⟩ (.inr ⟨chain, q, rfl, fun h => ?_⟩)
      cases hok.mpr h.1
    · rw [hadd] at hok
      have htakes : ac.Takes s.mem s.queue := hok.mp rfl
      simp only [reduceCtorEq, exists_false, htakes, hread, and_self, not_true_eq_false, and_false,
        or_self]

/-- The used rings of several queues, after one queue has moved on. -/
theorem map_used_set_ne_iff {f : Q → List (UInt16 × UInt32)} {queues : List Q} {i : ℕ}
    {queue : Q} (hq : queues[i]? = some queue) (queue' : Q) :
    (queues.set i queue').map f ≠ queues.map f ↔ f queue' ≠ f queue := by
  obtain ⟨hi, rfl⟩ := List.getElem?_eq_some_iff.mp hq
  rw [List.map_set, not_iff_not]
  constructor
  · intro h
    have hget := congrArg (fun l => l[i]?) h
    simpa [hi] using hget
  · intro h
    rw [h, ← List.getElem_map f (h := by simpa using hi), List.set_getElem_self]

/-! ### Interrupts -/

/-- The event is written when its counter has room. -/
theorem signalInterrupt_of_room {e : EventFd} (h : e.count + 1 ≤ 2 ^ 64 - 2) :
    signalInterrupt (some e) = (some ⟨e.count + 1⟩, .ok ()) := by
  simp only [signalInterrupt, EventFd.write, if_pos h]

/-- An event that was not written can be told from one that was. -/
theorem EventFd.ne_signalled (e : EventFd) : some e ≠ some (EventFd.mk (e.count + 1)) := by
  intro h
  have := congrArg EventFd.count (Option.some.inj h)
  simp at this

namespace VirtioConsole

/-- What the transmit loop starts from. -/
def sendState (dev : VirtioConsole Q) (output : W) (queue : Q) : SendState Q (W × Bool) where
  mem := dev.config.mem
  queue := queue
  sink := (output, false)

/-- The body of the transmit loop. -/
def sendBody (vm : VmMemory) (vq : VirtioQueue Q C) (out : HostWriter W) :
    SendState Q (W × Bool) → Flow (SendState Q (W × Bool)) (Except HypervisorError Unit) :=
  sendStep vm vq (fun d => !d.isWriteOnly) (deliver out)

variable (vm out) in
/-- As long as no chain has been taken, the used ring is what it was. -/
theorem used_of_not_taken (ur : vq.UsedRing) (fuel : ℕ) (dev : VirtioConsole Q) (output : W)
    (queue : Q)
    (h : (loop (sendBody vm vq out) fuel (dev.sendState output queue)).1.sink.2 = false) :
    ur.used (loop (sendBody vm vq out) fuel (dev.sendState output queue)).1.queue =
      ur.used queue := by
  refine (loop_inv (I := fun t : SendState Q (W × Bool) =>
    t.sink.2 = false → ur.used t.queue = ur.used queue) (fun t _ ht => ?_) fun _ => rfl).1 h
  rcases sendStep_cases vm vq (fun d => !d.isWriteOnly) (deliver out) t with
    ⟨e, -, hstep⟩ | ⟨-, hstep⟩ | ⟨chain, q, m', q', r, -, -, hstep⟩
  · rw [sendBody, hstep]
    exact ht
  · rw [sendBody, hstep]
    exact ht
  · rw [sendBody, hstep]
    intro hfalse
    cases hfalse

/-- A call for the transmit queue raises an interrupt for what it has completed, unless its loop
fails. -/
theorem processTxQueue_interrupt (ur : vq.UsedRing) {dev dev' : VirtioConsole Q} {queue : Q}
    {e : EventFd} (hq : dev.config.queues[1]? = some queue)
    (hevt : dev.config.interruptEvt = some e) (he : e.count + 1 ≤ 2 ^ 64 - 2) {fuel : ℕ}
    {output output' : W} {r : Outcome HypervisorError Unit}
    (hcall : processTxQueue vm vq out fuel dev output = ((dev', output'), some r)) :
    (dev'.config.queues.map ur.used ≠ dev.config.queues.map ur.used ↔
      ∃ t ∈ loopHeads (sendBody vm vq out) fuel (dev.sendState output queue),
        sendPlaced vm vq (fun d => !d.isWriteOnly) t ≠ []) ∧
    (dev'.config.queues.map ur.used ≠ dev.config.queues.map ur.used →
      (dev'.config.interruptEvt = some ⟨e.count + 1⟩ ↔
        ¬LoopFails (sendBody vm vq out) fuel (dev.sendState output queue))) := by
  have hgrown := loop_log_ne_iff (sendBody vm vq out) (fun t => ur.used t.queue)
    (sendPlaced vm vq fun d => !d.isWriteOnly) (n := fuel) (s := dev.sendState output queue)
    fun t _ => used_sendStep vm ur _ _ t
  have hflag := used_of_not_taken vm out ur fuel dev output queue
  rcases hloop : loop (sendBody vm vq out) fuel (dev.sendState output queue) with ⟨s, res⟩
  rw [hloop] at hgrown hflag
  have hloop' : loop (sendStep vm vq (fun d => !d.isWriteOnly) (deliver out)) fuel
      { mem := dev.config.mem, queue, sink := (output, false) } = (s, res) := hloop
  simp only [processTxQueue, hq, hloop', VirtioDeviceConfig.withQueue, hevt] at hcall
  rcases res with _ | err | _
  · cases (Prod.mk.inj hcall).2
  · -- the loop has failed, and the event has not been written
    obtain rfl := (Prod.mk.inj (Prod.mk.inj hcall).1).1
    refine ⟨(map_used_set_ne_iff hq s.queue).trans hgrown, fun _ => ?_⟩
    exact iff_of_false (fun h => e.ne_signalled h) fun h => h (loopFails_of_error hloop)
  · simp only [signalInterrupt_of_room he] at hcall
    cases htaken : s.sink.2 with
    | true =>
        rw [htaken] at hcall
        obtain rfl := (Prod.mk.inj (Prod.mk.inj hcall).1).1
        refine ⟨(map_used_set_ne_iff hq s.queue).trans hgrown, fun _ => ?_⟩
        exact iff_of_true rfl (not_loopFails_of_ok hloop)
    | false =>
        rw [htaken] at hcall
        obtain rfl := (Prod.mk.inj (Prod.mk.inj hcall).1).1
        refine ⟨(map_used_set_ne_iff hq s.queue).trans hgrown, fun hne => ?_⟩
        exact absurd (hflag htaken) ((map_used_set_ne_iff hq s.queue).mp hne)

end VirtioConsole

/-- A call of the block device raises an interrupt for what it has completed, unless its loop
fails. -/
theorem VirtioBlock.processQueue_interrupt (ur : vq.UsedRing) {dev dev' : VirtioBlock Q F}
    {queue : Q} {rest : List Q} {e : EventFd} (hq : dev.config.queues = queue :: rest)
    (hevt : dev.config.interruptEvt = some e) (he : e.count + 1 ≤ 2 ^ 64 - 2) {fuel : ℕ}
    {r : Except HypervisorError Unit}
    (hcall : processQueue vm hf vq fuel dev 0 = (dev', some r)) :
    (dev'.config.queues.map ur.used ≠ dev.config.queues.map ur.used ↔
      ∃ t ∈ heads vm hf vq fuel dev 0,
        stepPlaced vm hf vq dev.readOnly dev.blockSize t ≠ []) ∧
    (dev'.config.interruptEvt = some ⟨e.count + 1⟩ ↔
      ¬∃ t ∈ heads vm hf vq fuel dev 0, ∃ t' err,
        queueStep vm hf vq dev.readOnly dev.blockSize t = .exit t' (.error err)) := by
  have hgrown := loop_log_ne_iff (queueStep vm hf vq dev.readOnly dev.blockSize)
    (fun t => ur.used t.queue) (stepPlaced vm hf vq dev.readOnly dev.blockSize) (n := fuel)
    (s := dev.queueState queue) fun t _ => used_queueStep vm hf dev.readOnly dev.blockSize ur t
  have hhead : ∀ q : Q, ((q :: rest).map ur.used ≠ (queue :: rest).map ur.used) ↔
      ur.used q ≠ ur.used queue := by
    intro q
    simp only [List.map_cons, ne_eq, List.cons.injEq, and_true]
  rw [heads_of_queue hq]
  rcases hloop : loop (queueStep vm hf vq dev.readOnly dev.blockSize) fuel
    (dev.queueState queue) with ⟨s, res⟩
  rw [hloop] at hgrown
  simp only [processQueue, hq, ne_eq, not_true_eq_false, if_false, hloop] at hcall
  rcases res with _ | err | _
  · cases (Prod.mk.inj hcall).2
  · obtain rfl := (Prod.mk.inj hcall).1
    refine ⟨hq ▸ (hhead s.queue).trans hgrown, ?_⟩
    refine iff_of_false (fun h => ?_) fun h => h (loopFails_of_error hloop)
    exact e.ne_signalled (hevt.symm.trans h)
  · simp only [hevt, signalInterrupt_of_room he] at hcall
    obtain rfl := (Prod.mk.inj hcall).1
    exact ⟨hq ▸ (hhead s.queue).trans hgrown, iff_of_true rfl (not_loopFails_of_ok hloop)⟩

namespace VirtioNet

/-- What the transmit loop starts from. -/
def sendState (dev : VirtioNet Q S) (queue : Q) : SendState Q S where
  mem := dev.config.mem
  queue := queue
  sink := dev.socket

/-- A call for the receive queue raises no interrupt. -/
theorem processRxQueue_interrupt (ur : vq.UsedRing) {dev : VirtioNet Q S} {queue : Q}
    (hq : dev.config.queues[0]? = some queue) (fuel : ℕ) :
    ((processRxQueue vq sock fuel dev).1.config.queues.map ur.used ≠
        dev.config.queues.map ur.used ↔
      ∃ t ∈ loopHeads (receiveStep vq sock) fuel (dev.receiveState queue),
        receivePlaced vq sock t ≠ []) ∧
    (processRxQueue vq sock fuel dev).1.config.interruptEvt = dev.config.interruptEvt := by
  have hgrown := loop_log_ne_iff (receiveStep vq sock) (fun t => ur.used t.queue)
    (receivePlaced vq sock) (n := fuel) (s := dev.receiveState queue)
    fun t _ => used_receiveStep sock ur t
  rw [processRxQueue, hq]
  exact ⟨(map_used_set_ne_iff hq _).trans hgrown, rfl⟩

/-- A call for the transmit queue raises no interrupt. -/
theorem processTxQueue_interrupt (ur : vq.UsedRing) {dev : VirtioNet Q S} {queue : Q}
    (hq : dev.config.queues[1]? = some queue) (fuel : ℕ) :
    ((processTxQueue vm vq sock fuel dev).1.config.queues.map ur.used ≠
        dev.config.queues.map ur.used ↔
      ∃ t ∈ loopHeads (sendStep vm vq (fun _ => true) (deliver sock dev.peerAddr)) fuel
        (dev.sendState queue), sendPlaced vm vq (fun _ => true) t ≠ []) ∧
    (processTxQueue vm vq sock fuel dev).1.config.interruptEvt = dev.config.interruptEvt := by
  have hgrown := loop_log_ne_iff (sendStep vm vq (fun _ => true) (deliver sock dev.peerAddr))
    (fun t => ur.used t.queue) (sendPlaced vm vq fun _ => true) (n := fuel)
    (s := dev.sendState queue) fun t _ => used_sendStep vm ur _ _ t
  rw [processTxQueue, hq]
  exact ⟨(map_used_set_ne_iff hq _).trans hgrown, rfl⟩

end VirtioNet

/-! ### Every device -/

variable (env : DeviceEnv Q C F S W)

/-- The event that a device signals its interrupts with. -/
def VirtioDevice.interruptEvt : VirtioDevice Q F S → Option EventFd
  | .console dev => dev.config.interruptEvt
  | .block dev => dev.config.interruptEvt
  | .net dev => dev.config.interruptEvt
  | .fs _ => none

/-- The entries in the used rings of a device, queue by queue. -/
def VirtioDevice.usedEntries {vq : VirtioQueue Q C} (ur : vq.UsedRing)
    (dev : VirtioDevice Q F S) : List (List (UInt16 × UInt32)) :=
  dev.queues.map ur.used

section Conditions

variable {env} (ac : env.queue.Acceptance)

/-- Some iteration of the call completes a chain: its queue has one and takes it back. The receive
loop needs a datagram for it, and the block device has to be able to read its descriptors. -/
def VirtioDevice.Completes (fuel : ℕ) (dev : VirtioDevice Q F S) (output : W)
    (queueIdx : UInt32) : Prop :=
  match dev with
  | .console dev => queueIdx = 1 ∧ ∃ queue, dev.config.queues[1]? = some queue ∧
      ∃ t ∈ loopHeads (VirtioConsole.sendBody env.memory env.queue env.output) fuel
        (dev.sendState output queue), ac.Takes t.mem t.queue
  | .block dev => ∃ t ∈ dev.heads env.memory env.disk env.queue fuel queueIdx,
      ac.Takes t.mem t.queue ∧
        VirtioBlock.Readable env.memory env.disk env.queue dev.readOnly dev.blockSize t
  | .net dev =>
      (queueIdx = 0 ∧ ∃ queue, dev.config.queues[0]? = some queue ∧
        ∃ t ∈ loopHeads (receiveStep env.queue env.socket) fuel (dev.receiveState queue),
          ac.Takes t.mem t.queue ∧
            ∃ bytes, (env.socket.recvFrom t.socket 1514).2 = .datagram bytes) ∨
      (queueIdx = 1 ∧ ∃ queue, dev.config.queues[1]? = some queue ∧
        ∃ t ∈ loopHeads (sendStep env.memory env.queue (fun _ => true)
            (VirtioNet.deliver env.socket dev.peerAddr)) fuel (dev.sendState queue),
          ac.Takes t.mem t.queue)
  | .fs _ => False

/-- Nothing keeps the call from its signal: the device is a console and its queue can be iterated
each time, or it is a block device and in addition its queue takes back every chain it has and
the descriptors of all of them can be read. The network device never signals. -/
def VirtioDevice.Signals (fuel : ℕ) (dev : VirtioDevice Q F S) (output : W) (queueIdx : UInt32) :
    Prop :=
  match dev with
  | .console dev => ∀ queue, dev.config.queues[1]? = some queue →
      ∀ t ∈ loopHeads (VirtioConsole.sendBody env.memory env.queue env.output) fuel
        (dev.sendState output queue), ∀ e, env.queue.pop t.mem t.queue ≠ .error e
  | .block dev => ∀ t ∈ dev.heads env.memory env.disk env.queue fuel queueIdx,
      (∀ e, env.queue.pop t.mem t.queue ≠ .error e) ∧
        ∀ chain q, env.queue.pop t.mem t.queue = .ok (some (chain, q)) →
          ac.Takes t.mem t.queue ∧
            VirtioBlock.Readable env.memory env.disk env.queue dev.readOnly dev.blockSize t
  | .net _ => False
  | .fs _ => False

end Conditions

variable {env} {ac : env.queue.Acceptance}

/-- A call completes chains only when it looks into a queue. -/
theorem VirtioDevice.Completes.polls {dev : VirtioDevice Q F S} {fuel : ℕ} {output : W}
    {queueIdx : UInt32} (h : dev.Completes ac fuel output queueIdx) :
    dev.Polls queueIdx ∧ ∃ queue, dev.queues[queueIdx.toNat]? = some queue := by
  cases dev with
  | console dev =>
      obtain ⟨rfl, queue, hq, -⟩ := h
      exact ⟨rfl, queue, hq⟩
  | block dev =>
      obtain ⟨t, ht, -⟩ := h
      rcases VirtioBlock.queue_cases dev queueIdx with hno | ⟨rfl, queue, rest, hq⟩
      · rw [(VirtioBlock.processQueue_of_no_queue env.memory env.disk env.queue hno fuel).2] at ht
        exact absurd ht List.not_mem_nil
      · exact ⟨rfl, queue, by rw [queues, hq]; rfl⟩
  | net dev =>
      rcases h with ⟨rfl, queue, hq, -⟩ | ⟨rfl, queue, hq, -⟩
      · exact ⟨.inl rfl, queue, hq⟩
      · exact ⟨.inr rfl, queue, hq⟩
  | fs dev => exact h.elim

theorem exists_some_iff {α : Type} {o : Option α} {a : α} (h : o = some a) (P : α → Prop) :
    (∃ x, o = some x ∧ P x) ↔ P a := by
  subst h
  simp only [Option.some.injEq, exists_eq_left']

/-- What the call of a console completes. -/
theorem VirtioDevice.completes_console {dev : VirtioConsole Q} {queue : Q}
    (hq : dev.config.queues[1]? = some queue) (fuel : ℕ) (output : W) :
    (VirtioDevice.console dev : VirtioDevice Q F S).Completes ac fuel output 1 ↔
      ∃ t ∈ loopHeads (VirtioConsole.sendBody env.memory env.queue env.output) fuel
        (dev.sendState output queue),
        sendPlaced env.memory env.queue (fun d => !d.isWriteOnly) t ≠ [] := by
  refine ((and_iff_right rfl).trans (exists_some_iff hq _)).trans ?_
  exact exists_congr fun t => and_congr_right fun _ => (sendPlaced_ne_nil_iff ac _ t).symm

/-- When the call of a console signals. -/
theorem VirtioDevice.signals_console {dev : VirtioConsole Q} {queue : Q}
    (hq : dev.config.queues[1]? = some queue) (fuel : ℕ) (output : W) :
    (VirtioDevice.console dev : VirtioDevice Q F S).Signals ac fuel output 1 ↔
      ¬LoopFails (VirtioConsole.sendBody env.memory env.queue env.output) fuel
        (dev.sendState output queue) := by
  simp only [Signals, hq, Option.some.injEq, forall_eq', LoopFails, VirtioConsole.sendBody,
    sendStep_error_iff, not_exists, not_and, ne_eq]

/-- What the call of a block device completes. -/
theorem VirtioDevice.completes_block (dev : VirtioBlock Q F) (fuel : ℕ) (output : W)
    (queueIdx : UInt32) :
    (VirtioDevice.block dev : VirtioDevice Q F S).Completes ac fuel output queueIdx ↔
      ∃ t ∈ dev.heads env.memory env.disk env.queue fuel queueIdx,
        VirtioBlock.stepPlaced env.memory env.disk env.queue dev.readOnly dev.blockSize t ≠ [] :=
  exists_congr fun t => and_congr_right fun _ => (VirtioBlock.stepPlaced_ne_nil_iff ac t).symm

/-- When the call of a block device signals. -/
theorem VirtioDevice.signals_block (dev : VirtioBlock Q F) (fuel : ℕ) (output : W)
    (queueIdx : UInt32) :
    (VirtioDevice.block dev : VirtioDevice Q F S).Signals ac fuel output queueIdx ↔
      ¬∃ t ∈ dev.heads env.memory env.disk env.queue fuel queueIdx, ∃ t' err,
        queueStep env.memory env.disk env.queue dev.readOnly dev.blockSize t =
          .exit t' (.error err) := by
  simp only [Signals, VirtioBlock.queueStep_error_iff ac, not_exists, not_and, not_or, not_not,
    Classical.not_imp, ne_eq]

/-- What the call of a network device for its receive queue completes. -/
theorem VirtioDevice.completes_net_zero {dev : VirtioNet Q S} {queue : Q}
    (hq : dev.config.queues[0]? = some queue) (fuel : ℕ) (output : W) :
    (VirtioDevice.net dev : VirtioDevice Q F S).Completes ac fuel output 0 ↔
      ∃ t ∈ loopHeads (receiveStep env.queue env.socket) fuel (dev.receiveState queue),
        receivePlaced env.queue env.socket t ≠ [] := by
  refine (or_iff_left ?_).trans (((and_iff_right rfl).trans (exists_some_iff hq _)).trans ?_)
  · rintro ⟨hidx, -⟩
    cases hidx
  · exact exists_congr fun t => and_congr_right fun _ => (receivePlaced_ne_nil_iff ac t).symm

/-- What the call of a network device for its transmit queue completes. -/
theorem VirtioDevice.completes_net_one {dev : VirtioNet Q S} {queue : Q}
    (hq : dev.config.queues[1]? = some queue) (fuel : ℕ) (output : W) :
    (VirtioDevice.net dev : VirtioDevice Q F S).Completes ac fuel output 1 ↔
      ∃ t ∈ loopHeads (sendStep env.memory env.queue (fun _ => true)
          (VirtioNet.deliver env.socket dev.peerAddr)) fuel (dev.sendState queue),
        sendPlaced env.memory env.queue (fun _ => true) t ≠ [] := by
  refine (or_iff_right ?_).trans (((and_iff_right rfl).trans (exists_some_iff hq _)).trans ?_)
  · rintro ⟨hidx, -⟩
    cases hidx
  · exact exists_congr fun t => and_congr_right fun _ => (sendPlaced_ne_nil_iff ac _ t).symm

/-- A network device has not signalled, whatever it has done. -/
theorem VirtioDevice.signals_net {dev dev' : VirtioNet Q S} {e : EventFd}
    (hevt : dev.config.interruptEvt = some e)
    (hsame : dev'.config.interruptEvt = dev.config.interruptEvt) (fuel : ℕ) (output : W)
    (queueIdx : UInt32) :
    dev'.config.interruptEvt = some ⟨e.count + 1⟩ ↔
      (VirtioDevice.net dev : VirtioDevice Q F S).Signals ac fuel output queueIdx := by
  refine iff_of_false ?_ id
  rw [hsame, hevt]
  exact e.ne_signalled

/-- What a call completes, and when it signals, for a queue that the device looks into. -/
theorem VirtioDevice.processQueue_interrupt (ur : env.queue.UsedRing)
    (ac : env.queue.Acceptance) {dev dev' : VirtioDevice Q F S} {e : EventFd}
    (hevt : dev.interruptEvt = some e) (he : e.count + 1 ≤ 2 ^ 64 - 2) {queueIdx : UInt32}
    (hpoll : dev.Polls queueIdx) {queue : Q} (hq : dev.queues[queueIdx.toNat]? = some queue)
    {fuel : ℕ} {output output' : W} {r : Outcome HypervisorError Unit}
    (hcall : dev.processQueue env fuel output queueIdx = ((dev', output'), some r)) :
    (dev'.usedEntries ur ≠ dev.usedEntries ur ↔ dev.Completes ac fuel output queueIdx) ∧
      (dev'.usedEntries ur ≠ dev.usedEntries ur →
        (dev'.interruptEvt = some ⟨e.count + 1⟩ ↔ dev.Signals ac fuel output queueIdx)) := by
  cases dev with
  | console dev =>
      obtain rfl : queueIdx = 1 := hpoll
      rcases hdev : VirtioConsole.processTxQueue env.memory env.queue env.output fuel dev output
        with ⟨⟨dev₁, output₁⟩, r₁⟩
      simp only [processQueue, VirtioConsole.processQueue_one, hdev] at hcall
      obtain ⟨hpair, rfl⟩ := Prod.mk.inj hcall
      obtain ⟨rfl, rfl⟩ := Prod.mk.inj hpair
      rw [completes_console hq, signals_console hq]
      exact VirtioConsole.processTxQueue_interrupt ur hq hevt he hdev
  | block dev =>
      obtain rfl : queueIdx = 0 := hpoll
      obtain ⟨rest, hrest⟩ : ∃ rest, dev.config.queues = queue :: rest :=
        List.head?_eq_some_iff.mp (List.head?_eq_getElem?.trans hq)
      rcases hdev : VirtioBlock.processQueue env.memory env.disk env.queue fuel dev 0 with
        ⟨dev₁, _ | r₁⟩
      · simp only [processQueue, hdev] at hcall
        cases (Prod.mk.inj hcall).2
      · simp only [processQueue, hdev] at hcall
        obtain ⟨rfl, -⟩ := Prod.mk.inj (Prod.mk.inj hcall).1
        obtain ⟨hplaces, hsignal⟩ := VirtioBlock.processQueue_interrupt ur hrest hevt he hdev
        rw [completes_block, signals_block]
        exact ⟨hplaces, fun _ => hsignal⟩
  | net dev =>
      rcases hpoll with rfl | rfl
      · simp only [processQueue, VirtioNet.processQueue_zero] at hcall
        obtain ⟨rfl, -⟩ := Prod.mk.inj (Prod.mk.inj hcall).1
        obtain ⟨hplaces, hsame⟩ := VirtioNet.processRxQueue_interrupt ur hq fuel
        exact ⟨hplaces.trans (completes_net_zero hq fuel output).symm, fun _ =>
          signals_net hevt hsame fuel output 0⟩
      · simp only [processQueue, VirtioNet.processQueue_one] at hcall
        obtain ⟨rfl, -⟩ := Prod.mk.inj (Prod.mk.inj hcall).1
        obtain ⟨hplaces, hsame⟩ := VirtioNet.processTxQueue_interrupt ur hq fuel
        exact ⟨hplaces.trans (completes_net_one hq fuel output).symm, fun _ =>
          signals_net hevt hsame fuel output 1⟩
  | fs dev => exact hpoll.elim

/-- **Completions and interrupts**: a call signals for the chains it has put in used rings exactly
when no iteration finds a chain to complete, or the device is not the network device and no
iteration finds its queue, or the chain in it, in a state that ends the call with an error. -/
theorem interrupt_iff (ur : env.queue.UsedRing) (ac : env.queue.Acceptance)
    {dev dev' : VirtioDevice Q F S} {e : EventFd} (hevt : dev.interruptEvt = some e)
    (he : e.count + 1 ≤ 2 ^ 64 - 2) {fuel : ℕ} {output output' : W} {queueIdx : UInt32}
    {r : Outcome HypervisorError Unit}
    (hcall : dev.processQueue env fuel output queueIdx = ((dev', output'), some r)) :
    (dev'.usedEntries ur ≠ dev.usedEntries ur → dev'.interruptEvt = some ⟨e.count + 1⟩) ↔
      (dev.Completes ac fuel output queueIdx → dev.Signals ac fuel output queueIdx) := by
  by_cases hno : dev.Polls queueIdx → dev.queues[queueIdx.toNat]? = none
  · have hsame : (dev.processQueue env fuel output queueIdx).1 = (dev, output) :=
      VirtioDevice.processQueue_of_no_queue hno fuel output
    rw [hcall] at hsame
    obtain ⟨rfl, -⟩ := Prod.mk.inj hsame
    refine iff_of_true (fun h => absurd rfl h) fun hcompletes => ?_
    obtain ⟨hpoll, queue, hq⟩ := hcompletes.polls
    rw [hno hpoll] at hq
    cases hq
  · obtain ⟨hpoll, hsome⟩ := Classical.not_imp.mp hno
    obtain ⟨queue, hq⟩ := Option.ne_none_iff_exists'.mp hsome
    obtain ⟨hcompletes, hsignal⟩ :=
      VirtioDevice.processQueue_interrupt ur ac hevt he hpoll hq hcall
    constructor
    · exact fun h hp => (hsignal (hcompletes.mpr hp)).mp (h (hcompletes.mpr hp))
    · exact fun h hne => (hsignal hne).mpr (h (hcompletes.mp hne))

/-- The configuration of a device that has the given queues, in a page that begins with a flush
request. -/
def flushConfig (queues : List ScriptedQueue) : VirtioDeviceConfig GatedQueue where
  mem := GuestMemory.page [4]
  guestMem := 0
  irq := 6
  queues := queues.map fun script => { ready := true, script }
  interruptEvt := some ⟨0⟩

/-- A block device with an empty disk and these chains available. -/
def flushBlock (chains : List (UInt16 × List Descriptor)) : VirtioBlock GatedQueue DiskFile where
  config := flushConfig [⟨chains, []⟩]
  disk := ⟨[], 0⟩
  diskSize := 0
  blockSize := 512
  readOnly := false

/-- The same as one of the devices. -/
def flushDisk (chains : List (UInt16 × List Descriptor)) : VirtioDevice GatedQueue DiskFile Unit :=
  .block (flushBlock chains)

/-- A network device with one frame to send. -/
def sendingNet : VirtioDevice GatedQueue DiskFile Unit :=
  .net
    { config := flushConfig [⟨[], []⟩, ⟨[(0, [⟨0, 4, 0⟩])], []⟩]
      socket := ()
      localMac := Vector.replicate 6 0x02
      peerAddr := none }

/-- A disk completes a flush request and signals. -/
theorem interrupt_iff_flush :
    ∃ dev' output' r, (flushDisk [(0, [⟨0, 16, 0⟩])]).processQueue DeviceEnv.plain 2 [] 0 =
        ((dev', output'), some r) ∧
      dev'.usedEntries GatedQueue.usedRing ≠
        (flushDisk [(0, [⟨0, 16, 0⟩])]).usedEntries GatedQueue.usedRing ∧
      dev'.interruptEvt = some ⟨1⟩ := by
  obtain ⟨dev', output', r, hcall, hused⟩ : ∃ dev' output' r,
      (flushDisk [(0, [⟨0, 16, 0⟩])]).processQueue DeviceEnv.plain 2 [] 0 =
        ((dev', output'), some r) ∧ dev'.usedEntries GatedQueue.usedRing = [[(0, 0)]] :=
    ⟨_, _, _, rfl, rfl⟩
  have hevt : (flushDisk [(0, [⟨0, 16, 0⟩])]).interruptEvt = some ⟨0⟩ := rfl
  have hne : dev'.usedEntries GatedQueue.usedRing ≠
      (flushDisk [(0, [⟨0, 16, 0⟩])]).usedEntries GatedQueue.usedRing := by
    rw [hused]
    decide
  have hheads : VirtioBlock.heads VmMemory.mmap (DiskFile.host []) GatedQueue.queue 2
      (flushBlock [(0, [⟨0, 16, 0⟩])]) 0 =
    [⟨GuestMemory.page [4], ⟨[], 0⟩, ⟨true, [(0, [⟨0, 16, 0⟩])], []⟩⟩,
      ⟨GuestMemory.page [4], ⟨[], 0⟩, ⟨true, [], [(0, 0)]⟩⟩] := rfl
  have hmet : VirtioBlock.stepRequests VmMemory.mmap (DiskFile.host []) GatedQueue.queue false 512
      ⟨GuestMemory.page [4], ⟨[], 0⟩, ⟨true, [(0, [⟨0, 16, 0⟩])], []⟩⟩ =
    [(⟨GuestMemory.page [4], ⟨[], 0⟩⟩, ⟨0, 16, 0⟩)] := rfl
  refine ⟨dev', output', r, hcall, hne, (interrupt_iff GatedQueue.usedRing GatedQueue.acceptance
    hevt (by decide) hcall).mpr (fun _ t ht => ?_) hne⟩
  -- the first iteration has a chain that is taken back and can be read, the second has none
  rcases List.mem_cons.mp (hheads ▸ ht) with rfl | ht
  · refine ⟨fun e h => (nomatch h), fun chain q h => ⟨⟨chain, q, h, trivial⟩, fun x hx => ?_⟩⟩
    obtain rfl := List.mem_singleton.mp (hmet ▸ hx)
    decide
  · obtain rfl := List.mem_singleton.mp ht
    exact ⟨fun e h => (nomatch h), fun chain q h => nomatch h⟩

/-- **Completions without an interrupt**: the network device has put its frame in the used ring
and returned `Ok`, and a disk has completed its first request and returned an error for the
second; neither has signalled. -/
theorem completed_without_interrupt :
    (∃ dev', sendingNet.processQueue DeviceEnv.plain 2 [] 1 = ((dev', []), some (.ok ())) ∧
      sendingNet.usedEntries GatedQueue.usedRing = [[], []] ∧
      dev'.usedEntries GatedQueue.usedRing = [[], [(0, 4)]] ∧
      dev'.interruptEvt = sendingNet.interruptEvt) ∧
    ∃ dev', (flushDisk [(0, [⟨0, 16, 0⟩]), (1, [⟨0x5000, 16, 0⟩])]).processQueue DeviceEnv.plain 2
        [] 0 = ((dev', []), some (.err (.memoryError "Failed to read request type"))) ∧
      dev'.usedEntries GatedQueue.usedRing = [[(0, 0)]] ∧
      dev'.interruptEvt = some ⟨0⟩ :=
  ⟨⟨_, rfl, rfl, rfl, rfl⟩, ⟨_, rfl, rfl, rfl⟩⟩

end MoVm
