import MoVm.Virtqueue

/-!
# The Virtio Block Device

The model of `virtio/block.rs`. `processQueue` embeds the code the guest reaches through
a queue notification: a `while` loop that pops descriptor chains, and inside it a `for`
loop that treats **every descriptor of the chain as a request of its own**. The type of
a request is read from the first four bytes of its buffer and the sector from the first
eight, and sixteen bytes are skipped before the data. All failures after the type has
been read are ignored, exactly as the `let _ =` bindings of the source do.

The arithmetic is that of a release build: `sector * block_size` wraps modulo `2 ^ 64`.

`serveDesc_cases` says once what a descriptor can do; the rest of the development uses it
and never unfolds the loop body again. `requests` lists the descriptors a call handles
together with the state each is met in, and `processQueue_disk_inv` is the resulting
rule: what every listed request preserves of the disk, the call preserves.
-/

open Lib

namespace MoVm

/-! ### Constants -/

/-- `VIRTIO_BLK_T_IN`: read from the disk. -/
def virtioBlkTIn : UInt32 := 0

/-- `VIRTIO_BLK_T_OUT`: write to the disk. -/
def virtioBlkTOut : UInt32 := 1

/-- `VIRTIO_BLK_T_FLUSH`. -/
def virtioBlkTFlush : UInt32 := 4

/-- `VIRTIO_BLK_S_OK`. -/
def virtioBlkSOk : UInt8 := 0

/-- `VIRTIO_BLK_S_IOERR`. -/
def virtioBlkSIoerr : UInt8 := 1

/-- `VIRTIO_BLK_S_UNSUPP`. -/
def virtioBlkSUnsupp : UInt8 := 2

/-! ### Devices -/

/-- `VirtioDeviceConfig` of `virtio/mod.rs`: what every virtio device holds. -/
structure VirtioDeviceConfig (Q : Type) where
  mem : GuestMemory
  guestMem : UInt64
  irq : UInt32
  queues : List Q
  interruptEvt : Option EventFd

/-- The block device. -/
structure VirtioBlock (Q F : Type) where
  config : VirtioDeviceConfig Q
  disk : F
  diskSize : UInt64
  blockSize : UInt32
  readOnly : Bool

variable {Q C F : Type} (vm : VmMemory) (hf : HostFile F) (vq : VirtioQueue Q C)

/-- `VirtioDeviceConfig::new`. The event fd is optional: failing to create it is no
error. -/
def VirtioDeviceConfig.new (eventFdNew : Except String EventFd) (mem : GuestMemory)
    (guestMem : UInt64) (irq : UInt32) (numQueues : ℕ) : VirtioDeviceConfig Q where
  mem := mem
  guestMem := guestMem
  irq := irq
  queues := List.replicate numQueues (vq.create 1024)
  interruptEvt := eventFdNew.toOption

/-- `VirtioBlock::new`. A read-only disk is opened without write access, and the size of
the image is taken once, here. -/
def VirtioBlock.new (eventFdNew : Except String EventFd) (mem : GuestMemory)
    (guestMem : UInt64) (irq : UInt32) (diskPath : String) (readOnly : Bool) :
    Except HypervisorError (VirtioBlock Q F) :=
  match if readOnly then hf.openRead diskPath else hf.openReadWrite diskPath with
  | .error e => .error (.ioError ("Failed to open disk image: " ++ e))
  | .ok file =>
      match hf.metadataLen file with
      | .error e => .error (.ioError e)
      | .ok diskSize =>
          .ok
            { config := VirtioDeviceConfig.new vq eventFdNew mem guestMem irq 1
              disk := file
              diskSize := diskSize
              blockSize := 512
              readOnly := readOnly }

/-- `addr.checked_add(n)`. -/
def checkedAdd (addr : UInt64) (n : ℕ) : Option ℕ :=
  if addr.toNat + n < 2 ^ 64 then some (addr.toNat + n) else none

/-! ### One descriptor -/

/-- What the handling of requests changes: guest memory and the disk file. -/
structure ReqState (F : Type) where
  mem : GuestMemory
  disk : F

/-- The request type a descriptor is read as. -/
def requestType (m : GuestMemory) (d : Descriptor) : Except HypervisorError UInt32 :=
  match vm.readSlice m d.addr.toNat (List.replicate 4 0) with
  | (buf, .ok ()) => .ok (UInt32.ofNat (leNat buf))
  | (_, .error _) => .error (.memoryError "Failed to read request type")

/-- The sector number the code decodes: the first eight bytes of the buffer, of which
the request type is the lower half. -/
def requestSector (m : GuestMemory) (d : Descriptor) : UInt64 :=
  UInt64.ofNat (leNat (vm.readSlice m d.addr.toNat (List.replicate 8 0)).1)

/-- The offset handed to `seek`. -/
def requestOffset (blockSize : UInt32) (m : GuestMemory) (d : Descriptor) : ℕ :=
  (requestSector vm m d * blockSize.toUInt64).toNat

/-- `desc.len().saturating_sub(16)`. -/
def dataLen (d : Descriptor) : ℕ :=
  d.len.toNat - 16

/-- The `VIRTIO_BLK_T_IN` arm: read the disk into a buffer, copy it to the guest. -/
def serveIn (blockSize : UInt32) (s : ReqState F) (d : Descriptor) : ReqState F :=
  let disk := (hf.seek s.disk (requestOffset vm blockSize s.mem d)).1
  let (disk, buf, _) := hf.readExact disk (List.replicate (dataLen d) 0)
  match checkedAdd d.addr 16 with
  | some writeAddr => { mem := (vm.writeSlice s.mem writeAddr buf).1, disk }
  | none => { s with disk }

/-- The bytes an `OUT` request writes: the guest's data, or zeros where it cannot be
read. -/
def outData (m : GuestMemory) (d : Descriptor) : List UInt8 :=
  match checkedAdd d.addr 16 with
  | some readAddr => (vm.readSlice m readAddr (List.replicate (dataLen d) 0)).1
  | none => List.replicate (dataLen d) 0

/-- The `VIRTIO_BLK_T_OUT` arm of a writable disk. -/
def serveOut (blockSize : UInt32) (s : ReqState F) (d : Descriptor) : ReqState F :=
  let disk := (hf.seek s.disk (requestOffset vm blockSize s.mem d)).1
  { s with disk := (hf.writeAll disk (outData vm s.mem d)).1 }

/-- The body of the inner loop. Leaving it with a status is a `break`, leaving it with
an error is the early return of `process_queue`. -/
def serveDesc (readOnly : Bool) (blockSize : UInt32) (s : ReqState F) (d : Descriptor) :
    Flow (ReqState F) (Except HypervisorError UInt8) :=
  match requestType vm s.mem d with
  | .error e => .exit s (.error e)
  | .ok reqType =>
      if reqType = virtioBlkTIn then .next (serveIn vm hf blockSize s d)
      else if reqType = virtioBlkTOut then
        if readOnly then .exit s (.ok virtioBlkSIoerr)
        else .next (serveOut vm hf blockSize s d)
      else if reqType = virtioBlkTFlush then .next { s with disk := (hf.flush s.disk).1 }
      else .exit s (.ok virtioBlkSUnsupp)

/-! ### One chain -/

/-- The inner loop over the descriptors of a chain, and the status it ends with. -/
def serveChain (readOnly : Bool) (blockSize : UInt32) (s : ReqState F) (chain : C) :
    ReqState F × Except HypervisorError UInt8 :=
  match forEach (fun t c => vq.next t.mem c) (serveDesc vm hf readOnly blockSize)
      (vq.ttl chain) chain s with
  | (s', none) => (s', .ok virtioBlkSOk)
  | (s', some r) => (s', r)

/-- What the outer loop changes. -/
structure QueueState (Q F : Type) where
  mem : GuestMemory
  disk : F
  queue : Q

/-- Put the chain with this head index in the used ring. The status goes where the crate
expects the number of bytes written. -/
def completeChain (s : ReqState F) (queue : Q) (headIndex : UInt16) (status : UInt8) :
    Flow (QueueState Q F) (Except HypervisorError Unit) :=
  match vq.addUsed s.mem queue headIndex status.toUInt32 with
  | (mem, queue, .ok ()) => .next { mem, disk := s.disk, queue }
  | (mem, queue, .error e) =>
      .exit { mem, disk := s.disk, queue }
        (.error (.memoryError ("Failed to add used descriptor: " ++ e)))

/-- The body of the outer loop: pop a chain, serve it, complete it. -/
def queueStep (readOnly : Bool) (blockSize : UInt32) (s : QueueState Q F) :
    Flow (QueueState Q F) (Except HypervisorError Unit) :=
  match vq.pop s.mem s.queue with
  | .error e => .exit s (.error (.memoryError ("Failed to iterate queue: " ++ e)))
  | .ok none => .exit s (.ok ())
  | .ok (some (chain, queue)) =>
      match serveChain vm hf vq readOnly blockSize { mem := s.mem, disk := s.disk } chain with
      | (r, .error e) => .exit { mem := r.mem, disk := r.disk, queue } (.error e)
      | (r, .ok status) => completeChain vq r queue (vq.headIndex chain) status

/-! ### `process_queue` -/

/-- Signal the guest at the end of a call. -/
def signalInterrupt (evt : Option EventFd) : Option EventFd × Except HypervisorError Unit :=
  match evt with
  | none => (none, .ok ())
  | some e =>
      match e.write 1 with
      | (e', .ok ()) => (some e', .ok ())
      | (e', .error msg) => (some e', .error (.ioError ("Failed to signal interrupt: " ++ msg)))

namespace VirtioBlock

/-- The device with the memory and the queues the guest has set up. -/
def offer (dev : VirtioBlock Q F) (mem : GuestMemory) (queues : List Q) : VirtioBlock Q F :=
  { dev with config := { dev.config with mem, queues } }

/-- What the outer loop starts from. -/
def queueState (dev : VirtioBlock Q F) (queue : Q) : QueueState Q F where
  mem := dev.config.mem
  disk := dev.disk
  queue := queue

/-- The device with the state the outer loop has reached. -/
def withQueueState (dev : VirtioBlock Q F) (rest : List Q) (s : QueueState Q F) :
    VirtioBlock Q F :=
  { dev with
    config := { dev.config with mem := s.mem, queues := s.queue :: rest }
    disk := s.disk }

/-- `process_queue`, followed for at most `fuel` iterations of its outer loop. The result
is `none` if the loop has not ended by then. -/
def processQueue (fuel : ℕ) (dev : VirtioBlock Q F) (queueIdx : UInt32) :
    VirtioBlock Q F × Option (Except HypervisorError Unit) :=
  if queueIdx ≠ 0 then
    (dev, some (.error (.memoryError "Invalid queue index for block device")))
  else
    match dev.config.queues with
    | [] => (dev, some (.error (.memoryError "Queue not found")))
    | queue :: rest =>
        match loop (queueStep vm hf vq dev.readOnly dev.blockSize) fuel
            (dev.queueState queue) with
        | (s, some (.ok ())) =>
            let (evt, r) := signalInterrupt dev.config.interruptEvt
            let dev := dev.withQueueState rest s
            ({ dev with config := { dev.config with interruptEvt := evt } }, some r)
        | (s, r) => (dev.withQueueState rest s, r)

/-- The descriptors an iteration of the outer loop hands to the inner loop body, each with
the state it is met in. -/
def stepRequests (readOnly : Bool) (blockSize : UInt32) (s : QueueState Q F) :
    List (ReqState F × Descriptor) :=
  match vq.pop s.mem s.queue with
  | .ok (some (chain, _)) =>
      visits (fun t c => vq.next t.mem c) (serveDesc vm hf readOnly blockSize)
        (vq.ttl chain) chain { mem := s.mem, disk := s.disk }
  | _ => []

/-- The states at the head of the outer loop during a call. -/
def heads (fuel : ℕ) (dev : VirtioBlock Q F) (queueIdx : UInt32) : List (QueueState Q F) :=
  if queueIdx ≠ 0 then []
  else
    match dev.config.queues with
    | [] => []
    | queue :: _ =>
        loopHeads (queueStep vm hf vq dev.readOnly dev.blockSize) fuel (dev.queueState queue)

/-- The descriptors a call handles, in order, each with the state it is met in. -/
def requests (fuel : ℕ) (dev : VirtioBlock Q F) (queueIdx : UInt32) :
    List (ReqState F × Descriptor) :=
  (heads vm hf vq fuel dev queueIdx).flatMap
    (stepRequests vm hf vq dev.readOnly dev.blockSize)

end VirtioBlock

/-! ### What one descriptor can do -/

variable {vm hf vq} {readOnly : Bool} {blockSize : UInt32}

/-- **Inversion of the inner loop body**: an unreadable type returns with an error, a
read, a write to a writable disk and a flush go on, a write to a read-only disk and an
unsupported type break with their status. -/
theorem serveDesc_cases (vm : VmMemory) (hf : HostFile F) (readOnly : Bool)
    (blockSize : UInt32) (s : ReqState F) (d : Descriptor) :
    (∃ e, requestType vm s.mem d = .error e ∧
      serveDesc vm hf readOnly blockSize s d = .exit s (.error e)) ∨
    (requestType vm s.mem d = .ok virtioBlkTIn ∧
      serveDesc vm hf readOnly blockSize s d = .next (serveIn vm hf blockSize s d)) ∨
    (requestType vm s.mem d = .ok virtioBlkTOut ∧ readOnly = true ∧
      serveDesc vm hf readOnly blockSize s d = .exit s (.ok virtioBlkSIoerr)) ∨
    (requestType vm s.mem d = .ok virtioBlkTOut ∧ readOnly = false ∧
      serveDesc vm hf readOnly blockSize s d = .next (serveOut vm hf blockSize s d)) ∨
    (requestType vm s.mem d = .ok virtioBlkTFlush ∧
      serveDesc vm hf readOnly blockSize s d =
        .next { s with disk := (hf.flush s.disk).1 }) ∨
    (∃ t, requestType vm s.mem d = .ok t ∧ t ≠ virtioBlkTIn ∧ t ≠ virtioBlkTOut ∧
      t ≠ virtioBlkTFlush ∧
      serveDesc vm hf readOnly blockSize s d = .exit s (.ok virtioBlkSUnsupp)) := by
  cases ht : requestType vm s.mem d with
  | error e => exact Or.inl ⟨e, rfl, by rw [serveDesc, ht]⟩
  | ok t =>
      by_cases hin : t = virtioBlkTIn
      · subst hin
        exact Or.inr (Or.inl ⟨rfl, by simp only [serveDesc, ht, if_true]⟩)
      by_cases hout : t = virtioBlkTOut
      · subst hout
        cases readOnly with
        | true =>
            exact Or.inr (Or.inr (Or.inl
              ⟨rfl, rfl, by simp only [serveDesc, ht, hin, if_true, if_false]⟩))
        | false =>
            exact Or.inr (Or.inr (Or.inr (Or.inl
              ⟨rfl, rfl, by simp [serveDesc, ht, hin]⟩)))
      by_cases hflush : t = virtioBlkTFlush
      · subst hflush
        exact Or.inr (Or.inr (Or.inr (Or.inr (Or.inl
          ⟨rfl, by simp only [serveDesc, ht, hin, hout, if_true, if_false]⟩))))
      · exact Or.inr (Or.inr (Or.inr (Or.inr (Or.inr
          ⟨t, rfl, hin, hout, hflush, by simp only [serveDesc, ht, hin, hout, hflush, if_false]⟩))))

variable (vm hf blockSize) in
/-- Reading the disk does not change it. -/
theorem content_serveIn (s : ReqState F) (d : Descriptor) :
    hf.content (serveIn vm hf blockSize s d).disk = hf.content s.disk := by
  unfold serveIn
  cases checkedAdd d.addr 16 with
  | none => exact hf.content_seek_readExact _ _ _
  | some a => exact hf.content_seek_readExact _ _ _

theorem length_outData (m : GuestMemory) (d : Descriptor) :
    (outData vm m d).length = dataLen d := by
  unfold outData
  cases checkedAdd d.addr 16 with
  | none => exact List.length_replicate
  | some a => exact (vm.readSlice_length m a _).trans List.length_replicate

/-! ### The disk along a call -/

theorem serveChain_fst (s : ReqState F) (chain : C) :
    (serveChain vm hf vq readOnly blockSize s chain).1 =
      (forEach (fun t c => vq.next t.mem c) (serveDesc vm hf readOnly blockSize)
        (vq.ttl chain) chain s).1 := by
  unfold serveChain
  generalize forEach (fun t c => vq.next t.mem c) (serveDesc vm hf readOnly blockSize)
    (vq.ttl chain) chain s = p
  rcases p with ⟨s', _ | r⟩ <;> rfl

/-- Completing a chain does not touch the disk. -/
theorem disk_completeChain (s : ReqState F) (queue : Q) (headIndex : UInt16)
    (status : UInt8) :
    (completeChain vq s queue headIndex status).state.disk = s.disk := by
  unfold completeChain
  rcases vq.addUsed s.mem queue headIndex status.toUInt32 with ⟨m, q, _ | _⟩ <;> rfl

/-- The disk after an iteration is the disk after its chain. -/
theorem disk_queueStep_of_pop {s : QueueState Q F} {chain : C} {queue : Q}
    (hpop : vq.pop s.mem s.queue = .ok (some (chain, queue))) :
    (queueStep vm hf vq readOnly blockSize s).state.disk =
      (serveChain vm hf vq readOnly blockSize ⟨s.mem, s.disk⟩ chain).1.disk := by
  simp only [queueStep, hpop]
  rcases serveChain vm hf vq readOnly blockSize ⟨s.mem, s.disk⟩ chain with ⟨r, e | status⟩
  · rfl
  · exact disk_completeChain r queue _ status

/-- What every descriptor of an iteration preserves of the disk, the iteration
preserves. -/
theorem queueStep_disk_inv {I : F → Prop} {s : QueueState Q F}
    (step : ∀ x ∈ VirtioBlock.stepRequests vm hf vq readOnly blockSize s,
      I x.1.disk → I (serveDesc vm hf readOnly blockSize x.1 x.2).state.disk)
    (init : I s.disk) :
    I (queueStep vm hf vq readOnly blockSize s).state.disk ∧
      ∀ x ∈ VirtioBlock.stepRequests vm hf vq readOnly blockSize s, I x.1.disk := by
  rcases hpop : vq.pop s.mem s.queue with e | _ | ⟨chain, q⟩
  · simp only [VirtioBlock.stepRequests, queueStep, hpop]
    exact ⟨init, fun x hx => absurd hx List.not_mem_nil⟩
  · simp only [VirtioBlock.stepRequests, queueStep, hpop]
    exact ⟨init, fun x hx => absurd hx List.not_mem_nil⟩
  · simp only [VirtioBlock.stepRequests, hpop] at step ⊢
    rw [disk_queueStep_of_pop hpop, serveChain_fst]
    exact forEach_inv (I := fun t : ReqState F => I t.disk) step init

namespace VirtioBlock

variable (vm hf vq) in
/-- **Shape of a call**: with a queue to process, the device after the call is the state
the outer loop reaches, up to the interrupt event. -/
theorem processQueue_of_queue {dev : VirtioBlock Q F} {queue : Q} {rest : List Q}
    (hq : dev.config.queues = queue :: rest) (fuel : ℕ) :
    ∃ evt r,
      processQueue vm hf vq fuel dev 0 =
        ({ dev with
            config :=
              { dev.config with
                mem := (loop (queueStep vm hf vq dev.readOnly dev.blockSize) fuel
                  (dev.queueState queue)).1.mem
                queues := (loop (queueStep vm hf vq dev.readOnly dev.blockSize) fuel
                  (dev.queueState queue)).1.queue :: rest
                interruptEvt := evt }
            disk := (loop (queueStep vm hf vq dev.readOnly dev.blockSize) fuel
              (dev.queueState queue)).1.disk }, r) ∧
      (r.isSome = (loop (queueStep vm hf vq dev.readOnly dev.blockSize) fuel
        (dev.queueState queue)).2.isSome) := by
  simp only [processQueue, hq, ne_eq, not_true_eq_false, if_false]
  generalize loop (queueStep vm hf vq dev.readOnly dev.blockSize) fuel
    (dev.queueState queue) = p
  rcases p with ⟨s, _ | _ | _⟩ <;> exact ⟨_, _, rfl, rfl⟩

theorem heads_of_queue {dev : VirtioBlock Q F} {queue : Q} {rest : List Q}
    (hq : dev.config.queues = queue :: rest) (fuel : ℕ) :
    heads vm hf vq fuel dev 0 =
      loopHeads (queueStep vm hf vq dev.readOnly dev.blockSize) fuel
        (dev.queueState queue) := by
  simp only [heads, hq, ne_eq, not_true_eq_false, if_false]

variable (vm hf vq) in
/-- A call that finds no queue returns at once: it changes nothing and handles no
request. -/
theorem processQueue_of_no_queue {dev : VirtioBlock Q F} {queueIdx : UInt32}
    (h : queueIdx ≠ 0 ∨ dev.config.queues = []) (fuel : ℕ) :
    (∃ e, processQueue vm hf vq fuel dev queueIdx = (dev, some (.error e))) ∧
      heads vm hf vq fuel dev queueIdx = [] := by
  unfold processQueue heads
  split
  · exact ⟨⟨_, rfl⟩, rfl⟩
  · rw [h.resolve_left ‹_›]
    exact ⟨⟨_, rfl⟩, rfl⟩

/-- A queue that cannot be iterated ends the call at once. -/
theorem processQueue_of_pop_error {dev : VirtioBlock Q F} {queue : Q} {rest : List Q} {e : String}
    (hq : dev.config.queues = queue :: rest) (hpop : vq.pop dev.config.mem queue = .error e)
    (fuel : ℕ) :
    processQueue vm hf vq fuel dev 0 = (dev, if fuel = 0 then none
      else some (.error (.memoryError ("Failed to iterate queue: " ++ e)))) := by
  have hpop' : vq.pop (dev.queueState queue).mem (dev.queueState queue).queue = .error e := hpop
  have hstep : queueStep vm hf vq dev.readOnly dev.blockSize (dev.queueState queue) =
      .exit (dev.queueState queue) (.error (.memoryError ("Failed to iterate queue: " ++ e))) := by
    rw [queueStep, hpop']
  have hdev : dev.withQueueState rest (dev.queueState queue) = dev := by
    rw [withQueueState, queueState, ← hq]
  simp only [processQueue, hq, ne_eq, not_true_eq_false, if_false, loop_exit_self hstep]
  cases fuel with
  | zero => simp only [if_true, hdev]
  | succ n => simp only [Nat.succ_ne_zero, if_false, hdev]

/-- Every call is of one of the two kinds. -/
theorem queue_cases (dev : VirtioBlock Q F) (queueIdx : UInt32) :
    (queueIdx ≠ 0 ∨ dev.config.queues = []) ∨
      (queueIdx = 0 ∧ ∃ queue rest, dev.config.queues = queue :: rest) := by
  rcases hq : dev.config.queues with _ | ⟨queue, rest⟩
  · exact Or.inl (Or.inr rfl)
  · by_cases hidx : queueIdx = 0
    · exact Or.inr ⟨hidx, queue, rest, rfl⟩
    · exact Or.inl (Or.inl hidx)

variable (vm hf vq) in
/-- `process_queue` never changes how the disk was set up. -/
theorem processQueue_setup (fuel : ℕ) (dev : VirtioBlock Q F) (queueIdx : UInt32) :
    (processQueue vm hf vq fuel dev queueIdx).1.readOnly = dev.readOnly ∧
      (processQueue vm hf vq fuel dev queueIdx).1.blockSize = dev.blockSize ∧
      (processQueue vm hf vq fuel dev queueIdx).1.diskSize = dev.diskSize := by
  rcases queue_cases dev queueIdx with h | ⟨rfl, queue, rest, hq⟩
  · obtain ⟨⟨e, he⟩, -⟩ := processQueue_of_no_queue vm hf vq h fuel
    rw [he]
    exact ⟨rfl, rfl, rfl⟩
  · obtain ⟨evt, r, hpq, -⟩ := processQueue_of_queue vm hf vq hq fuel
    rw [hpq]
    exact ⟨rfl, rfl, rfl⟩

/-- **Disk rule of `process_queue`**: what every request the call handles preserves of
the disk holds whenever a request is met and in the state the call reaches. -/
theorem processQueue_disk_inv {I : F → Prop} {fuel : ℕ} {dev : VirtioBlock Q F}
    {queueIdx : UInt32}
    (step : ∀ x ∈ requests vm hf vq fuel dev queueIdx,
      I x.1.disk → I (serveDesc vm hf dev.readOnly dev.blockSize x.1 x.2).state.disk)
    (init : I dev.disk) :
    I (processQueue vm hf vq fuel dev queueIdx).1.disk ∧
      ∀ x ∈ requests vm hf vq fuel dev queueIdx, I x.1.disk := by
  rcases queue_cases dev queueIdx with h | ⟨rfl, queue, rest, hq⟩
  · obtain ⟨⟨e, he⟩, hnil⟩ :=
      processQueue_of_no_queue vm hf vq h fuel
    rw [he, requests, hnil]
    exact ⟨init, fun x hx => absurd hx List.not_mem_nil⟩
  obtain ⟨evt, r, hpq, -⟩ := processQueue_of_queue vm hf vq hq fuel
  simp only [requests, heads_of_queue hq] at step ⊢
  -- each loop head is an iteration whose requests are all among those of the call
  have hstep : ∀ t ∈ loopHeads (queueStep vm hf vq dev.readOnly dev.blockSize) fuel
      (dev.queueState queue), I t.disk →
      I (queueStep vm hf vq dev.readOnly dev.blockSize t).state.disk ∧
        ∀ x ∈ stepRequests vm hf vq dev.readOnly dev.blockSize t, I x.1.disk :=
    fun t ht hI => queueStep_disk_inv
      (fun x hx => step x (List.mem_flatMap.mpr ⟨t, ht, hx⟩)) hI
  obtain ⟨hlast, hheads⟩ := loop_inv (I := fun t : QueueState Q F => I t.disk)
    (fun t ht hI => (hstep t ht hI).1) init
  refine ⟨?_, fun x hx => ?_⟩
  · rw [hpq]
    exact hlast
  · obtain ⟨t, ht, hxt⟩ := List.mem_flatMap.mp hx
    exact (hstep t ht (hheads t ht)).2 x hxt

variable (vm vq) in
/-- **Updates of the disk along a call**: what each request does to a quantity of the disk, the
call does for all requests in order. -/
theorem processQueue_disk_foldl {β : Type} (f : F → β) (update : β → ReqState F × Descriptor → β)
    (fuel : ℕ) (dev : VirtioBlock Q F) (queueIdx : UInt32)
    (h : ∀ x, f (serveDesc vm hf dev.readOnly dev.blockSize x.1 x.2).state.disk =
      update (f x.1.disk) x) :
    f (processQueue vm hf vq fuel dev queueIdx).1.disk =
      (requests vm hf vq fuel dev queueIdx).foldl update (f dev.disk) := by
  rcases queue_cases dev queueIdx with hno | ⟨rfl, queue, rest, hq⟩
  · obtain ⟨⟨e, he⟩, hnil⟩ := processQueue_of_no_queue vm hf vq hno fuel
    rw [he, requests, hnil]
    rfl
  obtain ⟨evt, r, hpq, -⟩ := processQueue_of_queue vm hf vq hq fuel
  rw [hpq, requests, heads_of_queue hq, List.foldl_flatMap]
  refine loop_foldl (queueStep vm hf vq dev.readOnly dev.blockSize) (fun t => f t.disk) _
    fun t _ => ?_
  -- one iteration: the descriptors of the chain it pops
  rcases hpop : vq.pop t.mem t.queue with e | _ | ⟨chain, q⟩
  · simp only [stepRequests, queueStep, hpop, Flow.state_exit, List.foldl_nil]
  · simp only [stepRequests, queueStep, hpop, Flow.state_exit, List.foldl_nil]
  · simp only [stepRequests, hpop]
    rw [disk_queueStep_of_pop hpop, serveChain_fst]
    exact forEach_foldl (fun t : ReqState F => f t.disk) update fun x _ => h x

end VirtioBlock

end MoVm
