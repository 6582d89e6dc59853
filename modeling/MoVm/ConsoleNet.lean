import MoVm.Devices

/-!
# The Queues of the Console and of the Network Device

The model of `process_queue` in `virtio/console.rs` and `virtio/net.rs`. Both devices have a
receive queue with index 0 and a transmit queue with index 1.

The two transmit loops have one shape (`sendStep`): pop a chain, collect the contents of its
descriptors, hand them over, and put the chain in the used ring with the number of bytes
collected. They differ in which descriptors count and in what becomes of the bytes: the
console leaves out the write-only ones and writes the rest to the host, the network device
takes all and sends them to its peer, if it has one. All failures other than those of
popping a chain are ignored.

The receive loop of the console is not implemented in the source; that of the network device
takes a chain before it asks the socket for a datagram.

As for the block device, a loop is followed for at most `fuel` iterations, and the result is
`none` if it has not ended by then.
-/

open Lib

namespace MoVm

/-- `desc.is_write_only()`. -/
def Descriptor.isWriteOnly (d : Descriptor) : Bool :=
  d.flags &&& 2 != 0

/-- The result of a call that does not panic. -/
def Outcome.ofExcept {ε α : Type} : Except ε α → Outcome ε α
  | .ok a => .ok a
  | .error e => .err e

/-- A device configuration in which one of the queues, and guest memory, have moved on. -/
def VirtioDeviceConfig.withQueue {Q : Type} (config : VirtioDeviceConfig Q) (i : ℕ)
    (mem : GuestMemory) (queue : Q) : VirtioDeviceConfig Q :=
  { config with mem, queues := config.queues.set i queue }

theorem VirtioDeviceConfig.withQueue_self {Q : Type} {config : VirtioDeviceConfig Q} {i : ℕ}
    {queue : Q} (h : config.queues[i]? = some queue) :
    config.withQueue i config.mem queue = config := by
  obtain ⟨hi, rfl⟩ := List.getElem?_eq_some_iff.mp h
  rw [withQueue, List.set_getElem_self]

variable {Q C S W T : Type} (vm : VmMemory) (vq : VirtioQueue Q C)

/-! ### Transmitting -/

/-- The contents of the descriptors of a chain that `keep` selects, one behind the other.
Each contributes as many bytes as it is long, zeros where memory cannot be read. -/
def collectChain (keep : Descriptor → Bool) (mem : GuestMemory) (chain : C) : List UInt8 :=
  (forEach (fun _ c => vq.next mem c)
    (fun buf d =>
      (.next
        (if keep d then
          buf ++ (vm.readSlice mem d.addr.toNat (List.replicate d.len.toNat 0)).1
        else buf) : Flow (List UInt8) Empty))
    (vq.ttl chain) chain []).1

/-- What a transmit loop changes; `sink` is what the bytes go to. -/
structure SendState (Q T : Type) where
  mem : GuestMemory
  queue : Q
  sink : T

/-- The body of a transmit loop. -/
def sendStep (keep : Descriptor → Bool) (deliver : T → List UInt8 → T) (s : SendState Q T) :
    Flow (SendState Q T) (Except HypervisorError Unit) :=
  match vq.pop s.mem s.queue with
  | .error e => .exit s (.error (.memoryError ("Failed to iterate queue: " ++ e)))
  | .ok none => .exit s (.ok ())
  | .ok (some (chain, queue)) =>
      let buf := collectChain vm vq keep s.mem chain
      let sink := deliver s.sink buf
      match vq.addUsed s.mem queue (vq.headIndex chain) (UInt32.ofNat buf.length) with
      | (mem, queue, _) => .next { mem, queue, sink }

/-- A queue that cannot be iterated ends the loop at once. -/
theorem loop_sendStep_error {keep : Descriptor → Bool} {deliver : T → List UInt8 → T}
    {s : SendState Q T} {e : String} (h : vq.pop s.mem s.queue = .error e) (fuel : ℕ) :
    loop (sendStep vm vq keep deliver) fuel s = (s, if fuel = 0 then none
      else some (.error (.memoryError ("Failed to iterate queue: " ++ e)))) := by
  refine loop_exit_self ?_ fuel
  rw [sendStep, h]

/-! ### Console -/

namespace VirtioConsole

variable (out : HostWriter W)

/-- `process_rx_queue`: not implemented. -/
def processRxQueue (dev : VirtioConsole Q) : VirtioConsole Q × Except HypervisorError Unit :=
  (dev, .ok ())

/-- Write what was collected to the host, and note that a chain was used. -/
def deliver (sink : W × Bool) (buf : List UInt8) : W × Bool :=
  (if buf.isEmpty then sink.1 else (out.writeAll sink.1 buf).1, true)

/-- `process_tx_queue`, with the host stream the console writes to. -/
def processTxQueue (fuel : ℕ) (dev : VirtioConsole Q) (output : W) :
    (VirtioConsole Q × W) × Option (Outcome HypervisorError Unit) :=
  match dev.config.queues[1]? with
  | none => ((dev, output), some .panic)
  | some queue =>
      match loop (sendStep vm vq (fun d => !d.isWriteOnly) (deliver out)) fuel
          { mem := dev.config.mem, queue, sink := (output, false) } with
      | (s, r) =>
          let config := dev.config.withQueue 1 s.mem s.queue
          match r with
          | some (.ok ()) =>
              if s.sink.2 then
                let (evt, r) := signalInterrupt config.interruptEvt
                (({ dev with config := { config with interruptEvt := evt } }, s.sink.1),
                  some (.ofExcept r))
              else (({ dev with config }, s.sink.1), some (.ok ()))
          | r => (({ dev with config }, s.sink.1), r.map .ofExcept)

/-- `process_queue`. -/
def processQueue (fuel : ℕ) (dev : VirtioConsole Q) (output : W) (queueIdx : UInt32) :
    (VirtioConsole Q × W) × Option (Outcome HypervisorError Unit) :=
  if queueIdx = 0 then
    let (dev, r) := dev.processRxQueue
    ((dev, output), some (.ofExcept r))
  else if queueIdx = 1 then processTxQueue vm vq out fuel dev output
  else ((dev, output), some (.err (.memoryError "Invalid queue index")))

variable {vm vq out}

theorem processQueue_one (fuel : ℕ) (dev : VirtioConsole Q) (output : W) :
    processQueue vm vq out fuel dev output 1 = processTxQueue vm vq out fuel dev output := rfl

/-- A transmit queue that cannot be iterated ends the call at once. -/
theorem processTxQueue_of_pop_error {dev : VirtioConsole Q} {queue : Q} {e : String}
    (hq : dev.config.queues[1]? = some queue) (hpop : vq.pop dev.config.mem queue = .error e)
    (fuel : ℕ) (output : W) :
    processTxQueue vm vq out fuel dev output = ((dev, output), if fuel = 0 then none
      else some (.err (.memoryError ("Failed to iterate queue: " ++ e)))) := by
  simp only [processTxQueue, hq]
  rw [loop_sendStep_error vm vq hpop]
  simp only [VirtioDeviceConfig.withQueue_self hq]
  cases fuel with
  | zero => rfl
  | succ n => rfl

end VirtioConsole

/-! ### Network -/

/-- What the receive loop changes. -/
structure ReceiveState (Q S : Type) where
  mem : GuestMemory
  queue : Q
  socket : S

/-- The body of the receive loop. The chain has been popped when the socket is asked, and a
datagram is dropped: the chain goes to the used ring with length zero. -/
def receiveStep (sock : HostSocket S) (s : ReceiveState Q S) :
    Flow (ReceiveState Q S) (Except HypervisorError Unit) :=
  match vq.pop s.mem s.queue with
  | .error e => .exit s (.error (.memoryError ("Failed to iterate queue: " ++ e)))
  | .ok none => .exit s (.ok ())
  | .ok (some (chain, queue)) =>
      match sock.recvFrom s.socket 1514 with
      | (socket, .wouldBlock) => .exit { s with queue, socket } (.ok ())
      | (socket, .error e) => .exit { s with queue, socket } (.error (.ioError e))
      | (socket, .datagram _) =>
          match vq.addUsed s.mem queue (vq.headIndex chain) 0 with
          | (mem, queue, _) => .next { mem, queue, socket }

theorem loop_receiveStep_error {sock : HostSocket S} {s : ReceiveState Q S} {e : String}
    (h : vq.pop s.mem s.queue = .error e) (fuel : ℕ) :
    loop (receiveStep vq sock) fuel s = (s, if fuel = 0 then none
      else some (.error (.memoryError ("Failed to iterate queue: " ++ e)))) := by
  refine loop_exit_self ?_ fuel
  rw [receiveStep, h]

namespace VirtioNet

variable (sock : HostSocket S)

/-- `process_rx_queue`. -/
def processRxQueue (fuel : ℕ) (dev : VirtioNet Q S) :
    VirtioNet Q S × Option (Except HypervisorError Unit) :=
  match dev.config.queues[0]? with
  | none => (dev, some (.error (.memoryError "RX queue not found")))
  | some queue =>
      match loop (receiveStep vq sock) fuel
          { mem := dev.config.mem, queue, socket := dev.socket } with
      | (s, r) =>
          ({ dev with config := dev.config.withQueue 0 s.mem s.queue, socket := s.socket }, r)

/-- Send what was collected to the peer, if there is one; a failure is only logged. -/
def deliver (peerAddr : Option String) (socket : S) (buf : List UInt8) : S :=
  match peerAddr with
  | none => socket
  | some peer => (sock.sendTo socket buf peer).1

/-- `process_tx_queue`. -/
def processTxQueue (fuel : ℕ) (dev : VirtioNet Q S) :
    VirtioNet Q S × Option (Except HypervisorError Unit) :=
  match dev.config.queues[1]? with
  | none => (dev, some (.error (.memoryError "TX queue not found")))
  | some queue =>
      match loop (sendStep vm vq (fun _ => true) (deliver sock dev.peerAddr)) fuel
          { mem := dev.config.mem, queue, sink := dev.socket } with
      | (s, r) =>
          ({ dev with config := dev.config.withQueue 1 s.mem s.queue, socket := s.sink }, r)

/-- `process_queue`. -/
def processQueue (fuel : ℕ) (dev : VirtioNet Q S) (queueIdx : UInt32) :
    VirtioNet Q S × Option (Except HypervisorError Unit) :=
  if queueIdx = 0 then processRxQueue vq sock fuel dev
  else if queueIdx = 1 then processTxQueue vm vq sock fuel dev
  else (dev, some (.error (.memoryError ("Invalid queue index: " ++ toString queueIdx))))

variable {vm vq sock}

theorem processQueue_zero (fuel : ℕ) (dev : VirtioNet Q S) :
    processQueue vm vq sock fuel dev 0 = processRxQueue vq sock fuel dev := rfl

theorem processQueue_one (fuel : ℕ) (dev : VirtioNet Q S) :
    processQueue vm vq sock fuel dev 1 = processTxQueue vm vq sock fuel dev := rfl

/-- A receive queue that cannot be iterated ends the call at once. -/
theorem processRxQueue_of_pop_error {dev : VirtioNet Q S} {queue : Q} {e : String}
    (hq : dev.config.queues[0]? = some queue) (hpop : vq.pop dev.config.mem queue = .error e)
    (fuel : ℕ) :
    processRxQueue vq sock fuel dev = (dev, if fuel = 0 then none
      else some (.error (.memoryError ("Failed to iterate queue: " ++ e)))) := by
  simp only [processRxQueue, hq]
  rw [loop_receiveStep_error vq hpop]
  simp only [VirtioDeviceConfig.withQueue_self hq]

/-- A transmit queue that cannot be iterated ends the call at once. -/
theorem processTxQueue_of_pop_error {dev : VirtioNet Q S} {queue : Q} {e : String}
    (hq : dev.config.queues[1]? = some queue) (hpop : vq.pop dev.config.mem queue = .error e)
    (fuel : ℕ) :
    processTxQueue vm vq sock fuel dev = (dev, if fuel = 0 then none
      else some (.error (.memoryError ("Failed to iterate queue: " ++ e)))) := by
  simp only [processTxQueue, hq]
  rw [loop_sendStep_error vm vq hpop]
  simp only [VirtioDeviceConfig.withQueue_self hq]

end VirtioNet

end MoVm
