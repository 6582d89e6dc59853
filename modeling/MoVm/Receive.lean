import MoVm.ConsoleNet
import MoVm.Lib.Trace

/-!
# Receive Buffers of the Network Device

The receive loop of `virtio/net.rs` pops a chain before it asks the socket for a datagram. What
becomes of the chain depends on the answer: with a datagram it goes to the used ring, with none,
or an error, the call returns and the chain is neither available nor used.

A buffer of the guest is `accounted` for when it is in the used ring or still available. The
guest makes chains available in between the calls, so that the list of all it has ever made
available grows; over a queue that delivers its chains (`VirtioQueue.Rings`) the device should
keep this list, and does so along every sequence of calls in which a datagram is waiting for every
chain that is popped.

## Main results

* `receiveStep_cases`: the inversion of the receive loop's body.
* `receive_accounted`: no buffer is lost as long as there are datagrams.
* `idle_receive_loses`: a notification with nothing to receive loses a buffer.
* `frames_delivered_iff`: the frames that reach the guest are the empty ones.
-/

open Lib

namespace MoVm

variable {Q C S : Type} {vq : VirtioQueue Q C} {sock : HostSocket S}

/-! ### One iteration -/

variable (vq sock) in
/-- **Inversion of the receive loop's body**. -/
theorem receiveStep_cases (s : ReceiveState Q S) :
    (∃ e, vq.pop s.mem s.queue = .error e ∧ receiveStep vq sock s =
      .exit s (.error (.memoryError ("Failed to iterate queue: " ++ e)))) ∨
    (vq.pop s.mem s.queue = .ok none ∧ receiveStep vq sock s = .exit s (.ok ())) ∨
    ∃ chain q socket, vq.pop s.mem s.queue = .ok (some (chain, q)) ∧
      ((sock.recvFrom s.socket 1514 = (socket, .wouldBlock) ∧
        receiveStep vq sock s = .exit ⟨s.mem, q, socket⟩ (.ok ())) ∨
      (∃ e, sock.recvFrom s.socket 1514 = (socket, .error e) ∧
        receiveStep vq sock s = .exit ⟨s.mem, q, socket⟩ (.error (.ioError e))) ∨
      ∃ bytes, sock.recvFrom s.socket 1514 = (socket, .datagram bytes) ∧
        receiveStep vq sock s =
          .next ⟨(vq.addUsed s.mem q (vq.headIndex chain) 0).1,
            (vq.addUsed s.mem q (vq.headIndex chain) 0).2.1, socket⟩) := by
  rcases hpop : vq.pop s.mem s.queue with e | _ | ⟨chain, q⟩
  · exact .inl ⟨e, rfl, by simp only [receiveStep, hpop]⟩
  · exact .inr (.inl ⟨rfl, by simp only [receiveStep, hpop]⟩)
  · refine .inr (.inr ⟨chain, q, (sock.recvFrom s.socket 1514).1, rfl, ?_⟩)
    rcases hrecv : sock.recvFrom s.socket 1514 with ⟨socket, bytes | _ | e⟩
    · exact .inr (.inr ⟨bytes, rfl, by simp only [receiveStep, hpop, hrecv]⟩)
    · exact .inl ⟨rfl, by simp only [receiveStep, hpop, hrecv]⟩
    · exact .inr (.inl ⟨e, rfl, by simp only [receiveStep, hpop, hrecv]⟩)

/-! ### One call -/

/-- The buffers the loop knows of: those in the used ring, and those still available. -/
def ReceiveState.accounted (rings : vq.Rings) (s : ReceiveState Q S) : List UInt16 :=
  (rings.used s.queue).map Prod.fst ++ (rings.avail s.mem s.queue).map Prod.fst

/-- An iteration with a datagram for the first available chain: the chain goes to the used ring,
with length zero. -/
theorem receiveStep_datagram (rings : vq.Rings) {s : ReceiveState Q S} {h : UInt16}
    {ds : List Descriptor} {rest : List (UInt16 × List Descriptor)} {bytes : List UInt8}
    (hready : rings.ready s.mem s.queue)
    (havail : rings.avail s.mem s.queue = (h, ds) :: rest)
    (hrecv : (sock.recvFrom s.socket 1514).2 = .datagram bytes) :
    ∃ m' q', receiveStep vq sock s = .next ⟨m', q', (sock.recvFrom s.socket 1514).1⟩ ∧
      m'.layout = s.mem.layout ∧ rings.ready m' q' ∧ rings.avail m' q' = rest ∧
      rings.used q' = rings.used s.queue ++ [(h, 0)] := by
  obtain ⟨chain, q, hpop, hhead, -, -, hready', hvalid, hrest, hused⟩ :=
    rings.pop_cons hready havail
  obtain ⟨m', q', hadd, hL, -, -, hready'', havail', hused'⟩ := rings.addUsed_spec 0 hready' hvalid
  refine ⟨m', q', ?_, hL, hready'', havail'.trans hrest, by rw [hused', hused]⟩
  rcases hdata : sock.recvFrom s.socket 1514 with ⟨socket, data⟩
  rw [hdata] at hrecv
  obtain rfl : data = .datagram bytes := hrecv
  simp only [receiveStep, hpop, hdata, hhead, hadd]

/-- An iteration that gets a datagram for the chain it pops keeps account of all buffers. -/
theorem accounted_receiveStep (rings : vq.Rings) {s : ReceiveState Q S}
    (hready : rings.ready s.mem s.queue)
    (hfed : vq.popped s.mem s.queue ≠ [] →
      ∃ bytes, (sock.recvFrom s.socket 1514).2 = .datagram bytes) :
    rings.ready (receiveStep vq sock s).state.mem (receiveStep vq sock s).state.queue ∧
      (receiveStep vq sock s).state.mem.layout = s.mem.layout ∧
      (receiveStep vq sock s).state.accounted rings = s.accounted rings := by
  rcases havail : rings.avail s.mem s.queue with _ | ⟨⟨h, ds⟩, rest⟩
  · have hstep : receiveStep vq sock s = .exit s (.ok ()) := by
      simp only [receiveStep, rings.pop_nil hready havail]
    rw [hstep]
    exact ⟨hready, rfl, rfl⟩
  · obtain ⟨chain, q, hpop, -⟩ := rings.pop_cons hready havail
    obtain ⟨bytes, hdata⟩ := hfed (by simp [VirtioQueue.popped, hpop])
    obtain ⟨m', q', hstep, hL, hready', hrest, hused⟩ :=
      receiveStep_datagram rings hready havail hdata
    rw [hstep, Flow.state_next]
    refine ⟨hready', hL, ?_⟩
    simp only [ReceiveState.accounted, hrest, hused, havail, List.map_append, List.map_cons,
      List.map_nil, List.append_assoc, List.singleton_append]

namespace VirtioNet

/-- What the receive loop starts from. -/
def receiveState (dev : VirtioNet Q S) (queue : Q) : ReceiveState Q S where
  mem := dev.config.mem
  queue := queue
  socket := dev.socket

/-- A datagram is waiting whenever the receive loop pops a chain. -/
def Fed (vq : VirtioQueue Q C) (sock : HostSocket S) (fuel : ℕ) (dev : VirtioNet Q S)
    (queue : Q) : Prop :=
  ∀ t ∈ loopHeads (receiveStep vq sock) fuel (dev.receiveState queue),
    vq.popped t.mem t.queue ≠ [] → ∃ bytes, (sock.recvFrom t.socket 1514).2 = .datagram bytes

/-- The receive queue is set up. -/
def ReceiveReady (rings : vq.Rings) (dev : VirtioNet Q S) (queue : Q) : Prop :=
  dev.config.queues[0]? = some queue ∧ rings.ready dev.config.mem queue

/-- **A call with datagrams enough** keeps account of all buffers. -/
theorem accounted_processRxQueue (rings : vq.Rings) {fuel : ℕ} {dev : VirtioNet Q S} {queue : Q}
    (hready : dev.ReceiveReady rings queue) (hfed : dev.Fed vq sock fuel queue) :
    ∃ queue', (processRxQueue vq sock fuel dev).1.ReceiveReady rings queue' ∧
      ((processRxQueue vq sock fuel dev).1.receiveState queue').accounted rings =
        (dev.receiveState queue).accounted rings := by
  obtain ⟨hq, hready⟩ := hready
  obtain ⟨⟨hready', hsame⟩, -⟩ := loop_inv
    (I := fun t : ReceiveState Q S => rings.ready t.mem t.queue ∧
      t.accounted rings = (dev.receiveState queue).accounted rings)
    (fun t ht hI => by
      obtain ⟨hr, -, ha⟩ := accounted_receiveStep rings hI.1 (hfed t ht)
      exact ⟨hr, ha.trans hI.2⟩) ⟨hready, rfl⟩
  refine ⟨(loop (receiveStep vq sock) fuel (dev.receiveState queue)).1.queue, ⟨?_, ?_⟩, ?_⟩
  · simp only [processRxQueue, hq, VirtioDeviceConfig.withQueue]
    exact List.getElem?_set_self (List.getElem?_eq_some_iff.mp hq).1
  · simp only [processRxQueue, hq, VirtioDeviceConfig.withQueue]
    exact hready'
  · simp only [processRxQueue, hq, VirtioDeviceConfig.withQueue]
    exact hsame

/-! ### Sequences of calls -/

/-- The device as it sees guest memory with these contents. -/
def offer (dev : VirtioNet Q S) (mem : GuestMemory) : VirtioNet Q S :=
  { dev with config := { dev.config with mem } }

/-- The receive buffers that are in the used ring or still available, by head index. -/
def accounted (rings : vq.Rings) (dev : VirtioNet Q S) : List UInt16 :=
  match dev.config.queues[0]? with
  | none => []
  | some queue => (dev.receiveState queue).accounted rings

end VirtioNet

/-- What the guest does before it notifies the receive queue: its memory then, the chains it has
made available there, and how many iterations the call takes at most. -/
structure ReceiveCall where
  mem : GuestMemory
  offered : List (UInt16 × List Descriptor)
  fuel : ℕ

/-- A call of `process_rx_queue` that returns, after the guest has made chains available. The guest
has left the receive queue set up and its rings in order. -/
def ReceiveCall.Step (sock : HostSocket S) (rings : vq.Rings) (dev : VirtioNet Q S)
    (call : ReceiveCall) (dev' : VirtioNet Q S) (result : Except HypervisorError Unit) : Prop :=
  ∃ queue, (dev.offer call.mem).ReceiveReady rings queue ∧
    call.mem.layout = dev.config.mem.layout ∧
    rings.avail call.mem queue = rings.avail dev.config.mem queue ++ call.offered ∧
    VirtioNet.processRxQueue vq sock call.fuel (dev.offer call.mem) = (dev', some result)

/-- The chains that the guest has made available before the calls of a trace. -/
def offeredHeads
    (calls : List (VirtioNet Q S × ReceiveCall × Except HypervisorError Unit)) : List UInt16 :=
  calls.flatMap fun x => x.2.1.offered.map Prod.fst

/-- The account of a device whose receive queue is known. -/
theorem VirtioNet.accounted_eq (rings : vq.Rings) {dev : VirtioNet Q S} {queue : Q}
    (hq : dev.config.queues[0]? = some queue) :
    dev.accounted rings = (dev.receiveState queue).accounted rings := by
  rw [accounted, hq]

/-- A call with datagrams enough adds to the account what the guest has made available. -/
theorem ReceiveCall.Step.accounted {rings : vq.Rings} {dev dev' : VirtioNet Q S}
    {call : ReceiveCall} {result : Except HypervisorError Unit}
    (hstep : call.Step sock rings dev dev' result)
    (hfed : ∀ queue, dev.config.queues[0]? = some queue →
      (dev.offer call.mem).Fed vq sock call.fuel queue) :
    dev'.accounted rings = dev.accounted rings ++ call.offered.map Prod.fst := by
  obtain ⟨queue, hready, -, hoffer, hcall⟩ := hstep
  have hq : dev.config.queues[0]? = some queue := hready.1
  obtain ⟨queue', hr', hsame⟩ := VirtioNet.accounted_processRxQueue rings hready (hfed queue hq)
  rw [hcall] at hr' hsame
  rw [VirtioNet.accounted_eq rings hr'.1, hsame, VirtioNet.accounted_eq rings hq]
  simp only [ReceiveState.accounted, VirtioNet.receiveState, VirtioNet.offer, hoffer,
    List.map_append, List.append_assoc]

/-- **No receive buffer is lost** in a sequence of calls in which a datagram is waiting for every
chain that is popped: whenever a call has returned, the buffers in the used ring followed by those
still available are all that the guest has ever made available, each once and in this order. -/
theorem receive_accounted (rings : vq.Rings) {dev dev' : VirtioNet Q S}
    {calls : List (VirtioNet Q S × ReceiveCall × Except HypervisorError Unit)}
    (htrace : Trace (fun dev call dev' result => call.Step sock rings dev dev' result ∧
      ∀ queue, dev.config.queues[0]? = some queue →
        (dev.offer call.mem).Fed vq sock call.fuel queue) dev calls dev') :
    dev'.accounted rings = dev.accounted rings ++ offeredHeads calls ∧
    ∀ before x after, calls = before ++ x :: after →
      x.1.accounted rings = dev.accounted rings ++ offeredHeads before := by
  exact htrace.history (I := fun past t =>
    t.accounted rings = dev.accounted rings ++ offeredHeads past) (fun past t call t' result => by
      rintro ht ⟨hstep, hfed⟩
      rw [hstep.accounted hfed, ht, List.append_assoc, offeredHeads, offeredHeads,
        List.flatMap_append, List.flatMap_cons, List.flatMap_nil, List.append_nil])
    (List.append_nil _).symm

/-- A socket with these datagrams waiting. -/
def waitingSocket : HostSocket (List (List UInt8)) where
  recvFrom
    | [], _ => ([], .wouldBlock)
    | bytes :: rest, n => (rest, .datagram (bytes.take n))
  sendTo s bytes _ := (s, .ok bytes.length)

/-- A device with one receive buffer available, and these datagrams waiting. -/
def receivingNet (waiting : List (List UInt8)) :
    VirtioNet ScriptedQueue (List (List UInt8)) where
  config :=
    { mem := GuestMemory.page []
      guestMem := 0
      irq := 7
      queues := [⟨[(3, [⟨0, 1514, 2⟩])], []⟩, ⟨[], []⟩]
      interruptEvt := some ⟨0⟩ }
  socket := waiting
  localMac := Vector.replicate 6 0x02
  peerAddr := none

/-- The notification after which one datagram is received into the one buffer. -/
theorem receive_accounted_one :
    ∃ dev' result, ReceiveCall.Step waitingSocket ScriptedQueue.rings (receivingNet [[1, 2]])
        ⟨GuestMemory.page [], [], 2⟩ dev' result ∧
      dev'.accounted ScriptedQueue.rings = [3] := by
  have hstep : ∃ dev' result, ReceiveCall.Step waitingSocket ScriptedQueue.rings
      (receivingNet [[1, 2]]) ⟨GuestMemory.page [], [], 2⟩ dev' result :=
    ⟨_, _, ⟨[(3, [⟨0, 1514, 2⟩])], []⟩, ⟨rfl, trivial⟩, rfl, rfl, rfl⟩
  obtain ⟨dev', result, hstep⟩ := hstep
  have hheads : loopHeads (receiveStep ScriptedQueue.queue waitingSocket) 2
      ((receivingNet [[1, 2]]).receiveState ⟨[(3, [⟨0, 1514, 2⟩])], []⟩) =
        [⟨GuestMemory.page [], ⟨[(3, [⟨0, 1514, 2⟩])], []⟩, [[1, 2]]⟩,
          ⟨GuestMemory.page [], ⟨[], [(3, 0)]⟩, []⟩] := rfl
  have hfed : ∀ queue, (receivingNet [[1, 2]]).config.queues[0]? = some queue →
      ((receivingNet [[1, 2]]).offer (GuestMemory.page [])).Fed ScriptedQueue.queue waitingSocket
        2 queue := by
    rintro queue hq t ht hpopped
    obtain rfl := Option.some.inj hq
    rcases List.mem_cons.mp (hheads ▸ ht) with rfl | ht
    · exact ⟨[1, 2], rfl⟩
    · obtain rfl := List.mem_singleton.mp ht
      exact absurd rfl hpopped
  exact ⟨dev', result, hstep,
    (receive_accounted ScriptedQueue.rings (.cons ⟨hstep, hfed⟩ (.nil dev'))).1⟩

/-- **A notification with nothing to receive loses a buffer**: the call returns `Ok`, and the
chain that was available before is neither available nor used. -/
theorem idle_receive_loses :
    ∃ dev', ReceiveCall.Step waitingSocket ScriptedQueue.rings (receivingNet [])
        ⟨GuestMemory.page [], [], 1⟩ dev' (.ok ()) ∧
      (receivingNet []).accounted ScriptedQueue.rings = [3] ∧
      dev'.accounted ScriptedQueue.rings = [] :=
  ⟨_, ⟨⟨[(3, [⟨0, 1514, 2⟩])], []⟩, ⟨rfl, trivial⟩, rfl, rfl, rfl⟩, rfl, rfl⟩

/-! ### Frames -/

/-- Where the bytes of a frame belong: in the writable buffers of a chain, one after the other. -/
def scatter : List Descriptor → List UInt8 → List (ℕ × List UInt8)
  | [], _ => []
  | d :: ds, bytes =>
      if d.isWriteOnly then
        (d.addr.toNat, bytes.take d.len.toNat) :: scatter ds (bytes.drop d.len.toNat)
      else scatter ds bytes

/-- How many bytes the writable buffers of a chain take. -/
def writableLen : List Descriptor → ℕ
  | [] => 0
  | d :: ds => if d.isWriteOnly then d.len.toNat + writableLen ds else writableLen ds

/-- An iteration has delivered a frame: its bytes are in the writable buffers of the chain, and
the chain is in the used ring with the length of the frame. -/
def Delivered (sock : HostSocket S) (rings : vq.Rings) (s : ReceiveState Q S) (h : UInt16)
    (ds : List Descriptor) (bytes : List UInt8) : Prop :=
  (∀ w ∈ scatter ds bytes,
      slice (receiveStep vq sock s).state.mem.bytes w.1 w.2.length = w.2) ∧
    ∃ n : UInt32, n.toNat = bytes.length ∧
      rings.used (receiveStep vq sock s).state.queue = rings.used s.queue ++ [(h, n)]

/-- The frame taken from the socket at this loop head, the chain popped for it and its
descriptors, when the frame is one that fits. -/
def Takes (sock : HostSocket S) (rings : vq.Rings) (s : ReceiveState Q S) (h : UInt16)
    (ds : List Descriptor) (bytes : List UInt8) : Prop :=
  (∃ rest, rings.avail s.mem s.queue = (h, ds) :: rest) ∧
    (sock.recvFrom s.socket 1514).2 = .datagram bytes ∧ bytes.length ≤ 1514 ∧
    bytes.length ≤ writableLen ds

/-- The parts of an empty frame are empty. -/
theorem scatter_nil (ds : List Descriptor) : ∀ w ∈ scatter ds [], w.2 = [] := by
  induction ds with
  | nil => exact List.forall_mem_nil _
  | cons d ds ih =>
      rw [scatter, List.take_nil, List.drop_nil]
      split
      · exact List.forall_mem_cons.mpr ⟨rfl, ih⟩
      · exact ih

/-- The length zero is right for an empty frame only. -/
theorem delivered_iff {rings : vq.Rings} {s : ReceiveState Q S} {h : UInt16}
    {ds : List Descriptor} {bytes : List UInt8} (hready : rings.ready s.mem s.queue)
    (htakes : Takes sock rings s h ds bytes) : Delivered sock rings s h ds bytes ↔ bytes = [] := by
  obtain ⟨⟨rest, havail⟩, hrecv, -, -⟩ := htakes
  obtain ⟨m', q', hstep, -, -, -, hused⟩ := receiveStep_datagram rings hready havail hrecv
  rw [Delivered, hstep, Flow.state_next, hused]
  constructor
  · rintro ⟨-, n, hn, heq⟩
    have hzero : (h, (0 : UInt32)) = (h, n) := List.singleton_inj.mp (List.append_cancel_left heq)
    obtain rfl := (Prod.mk.inj hzero).2
    exact List.length_eq_zero_iff.mp hn.symm
  · rintro rfl
    refine ⟨fun w hw => ?_, 0, rfl, rfl⟩
    rw [scatter_nil ds w hw]
    exact slice_zero _ _

/-- The receive queue stays set up, whatever the socket answers. -/
theorem ready_receiveStep (rings : vq.Rings) {s : ReceiveState Q S}
    (hready : rings.ready s.mem s.queue) :
    rings.ready (receiveStep vq sock s).state.mem (receiveStep vq sock s).state.queue := by
  rcases havail : rings.avail s.mem s.queue with _ | ⟨⟨h, ds⟩, rest⟩
  · have hstep : receiveStep vq sock s = .exit s (.ok ()) := by
      simp only [receiveStep, rings.pop_nil hready havail]
    rw [hstep]
    exact hready
  · obtain ⟨chain, q, hpop, -, -, -, hready', -⟩ := rings.pop_cons hready havail
    rcases hrecv : sock.recvFrom s.socket 1514 with ⟨socket, bytes | _ | e⟩
    · obtain ⟨m', q', hstep, -, hready'', -⟩ :=
        receiveStep_datagram rings hready havail (congrArg Prod.snd hrecv)
      rw [hstep]
      exact hready''
    · have hstep : receiveStep vq sock s = .exit ⟨s.mem, q, socket⟩ (.ok ()) := by
        simp only [receiveStep, hpop, hrecv]
      rw [hstep]
      exact hready'
    · have hstep : receiveStep vq sock s = .exit ⟨s.mem, q, socket⟩ (.error (.ioError e)) := by
        simp only [receiveStep, hpop, hrecv]
      rw [hstep]
      exact hready'

/-- **Frames that are delivered**: a call of `process_rx_queue` on a queue that is set up delivers
every frame it takes from the socket, in the chain it has popped for it, exactly when all of these
frames are empty. The bytes of a frame are dropped and its chain is completed with length zero. -/
theorem frames_delivered_iff (rings : vq.Rings) {dev : VirtioNet Q S} {queue : Q}
    (hready : dev.ReceiveReady rings queue) (fuel : ℕ) :
    (∀ s ∈ loopHeads (receiveStep vq sock) fuel (dev.receiveState queue), ∀ h ds bytes,
        Takes sock rings s h ds bytes → Delivered sock rings s h ds bytes) ↔
      ∀ s ∈ loopHeads (receiveStep vq sock) fuel (dev.receiveState queue), ∀ h ds bytes,
        Takes sock rings s h ds bytes → bytes = [] := by
  have hheads : ∀ t ∈ loopHeads (receiveStep vq sock) fuel (dev.receiveState queue),
      rings.ready t.mem t.queue :=
    (loop_inv (I := fun t : ReceiveState Q S => rings.ready t.mem t.queue)
      (fun t _ hI => ready_receiveStep rings hI) hready.2).2
  exact forall₂_congr fun s hs => forall₄_congr fun h ds bytes htakes =>
    delivered_iff (hheads s hs) htakes

/-- A frame of two bytes is gone from the socket; the guest's buffer is as it was, and is
completed with length zero. -/
theorem frame_dropped :
    let dev := ((receivingNet [[1, 2]]).processRxQueue ScriptedQueue.queue waitingSocket 2).1
    dev.socket = [] ∧ dev.config.queues = [⟨[], [(3, 0)]⟩, ⟨[], []⟩] ∧
      slice dev.config.mem.bytes 0 2 = [0, 0] := by
  decide

/-- The empty frame is delivered. -/
theorem frames_delivered_empty :
    Delivered waitingSocket ScriptedQueue.rings
      ((receivingNet [[]]).receiveState ⟨[(3, [⟨0, 1514, 2⟩])], []⟩) 3 [⟨0, 1514, 2⟩] [] := by
  have hready : (receivingNet [[]]).ReceiveReady ScriptedQueue.rings
      ⟨[(3, [⟨0, 1514, 2⟩])], []⟩ := ⟨rfl, trivial⟩
  have hheads : loopHeads (receiveStep ScriptedQueue.queue waitingSocket) 1
      ((receivingNet [[]]).receiveState ⟨[(3, [⟨0, 1514, 2⟩])], []⟩) =
        [(receivingNet [[]]).receiveState ⟨[(3, [⟨0, 1514, 2⟩])], []⟩] := rfl
  refine (frames_delivered_iff ScriptedQueue.rings hready 1).mpr ?_ _
    (hheads ▸ List.mem_singleton_self _) 3 _ [] ⟨⟨[], rfl⟩, rfl, by decide, by decide⟩
  rw [hheads]
  refine List.forall_mem_singleton.mpr fun h ds bytes htakes => ?_
  obtain ⟨-, hrecv, -⟩ := htakes
  cases hrecv
  rfl

end MoVm
