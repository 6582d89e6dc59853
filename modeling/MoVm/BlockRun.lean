import MoVm.Block

/-!
# Runs of the Block Device

A run of the block device alternates between the guest, which may put anything into its
memory and its queues, and calls of `process_queue`. `Run P dev₀ dev` says that `dev` is
reached from `dev₀` by such a run in which every request the device handles satisfies
`P`; a call may be followed only part of its way, so the states between two chains are
reached as well, and `requests` gives the states within a chain.

## Main results

* `Run.disk_inv`: the invariant rule; a property of the disk that every handled request
  preserves holds along the run.
* `readOnly_run`: a read-only disk never changes, and a write to it ends its chain with
  an I/O error.
* `writable_run_length`: the image keeps the size it was opened with in every run whose
  writes land inside it. The device does not check this, and `outOfRange_grows` is a run
  of one request that makes the image grow.
-/

open Lib

namespace MoVm

variable {Q C F : Type} {vm : VmMemory} {hf : HostFile F} {vq : VirtioQueue Q C}

namespace VirtioBlock

/-- The runs from `dev₀` in which every request handled satisfies `P`. -/
inductive Run (vm : VmMemory) (hf : HostFile F) (vq : VirtioQueue Q C)
    (P : ReqState F → Descriptor → Prop) (dev₀ : VirtioBlock Q F) : VirtioBlock Q F → Prop
  | start : Run vm hf vq P dev₀ dev₀
  /-- The guest changes its memory and sets up its queues. -/
  | guest {dev : VirtioBlock Q F} (h : Run vm hf vq P dev₀ dev) (mem : GuestMemory)
      (queues : List Q) :
      Run vm hf vq P dev₀ (dev.offer mem queues)
  /-- The guest notifies a queue. -/
  | call {dev : VirtioBlock Q F} (h : Run vm hf vq P dev₀ dev) (fuel : ℕ)
      (queueIdx : UInt32) (hP : ∀ x ∈ requests vm hf vq fuel dev queueIdx, P x.1 x.2) :
      Run vm hf vq P dev₀ (processQueue vm hf vq fuel dev queueIdx).1

/-- How the disk was set up does not change along a run. -/
theorem Run.setup {P : ReqState F → Descriptor → Prop} {dev₀ dev : VirtioBlock Q F}
    (h : Run vm hf vq P dev₀ dev) :
    dev.readOnly = dev₀.readOnly ∧ dev.blockSize = dev₀.blockSize ∧
      dev.diskSize = dev₀.diskSize := by
  induction h with
  | start => exact ⟨rfl, rfl, rfl⟩
  | guest h mem queues ih => exact ih
  | call h fuel queueIdx hP ih =>
      obtain ⟨hro, hbs, hds⟩ := processQueue_setup vm hf vq fuel _ queueIdx
      exact ⟨hro.trans ih.1, hbs.trans ih.2.1, hds.trans ih.2.2⟩

/-- **Invariant rule of runs**: what every handled request preserves of the disk holds in
every state reached. -/
theorem Run.disk_inv {P : ReqState F → Descriptor → Prop} {I : F → Prop}
    {dev₀ dev : VirtioBlock Q F}
    (step : ∀ s d, P s d → I s.disk →
      I (serveDesc vm hf dev₀.readOnly dev₀.blockSize s d).state.disk)
    (init : I dev₀.disk) (h : Run vm hf vq P dev₀ dev) : I dev.disk := by
  induction h with
  | start => exact init
  | guest h mem queues ih => exact ih
  | call h fuel queueIdx hP ih =>
      obtain ⟨hro, hbs, -⟩ := h.setup
      refine (processQueue_disk_inv (fun x hx hI => ?_) ih).1
      rw [hro, hbs]
      exact step x.1 x.2 (hP x hx) hI

/-- The same for the states in which the requests of a further call are met. -/
theorem Run.requests_disk_inv {P : ReqState F → Descriptor → Prop} {I : F → Prop}
    {dev₀ dev : VirtioBlock Q F}
    (step : ∀ s d, P s d → I s.disk →
      I (serveDesc vm hf dev₀.readOnly dev₀.blockSize s d).state.disk)
    (init : I dev₀.disk) (h : Run vm hf vq P dev₀ dev) {fuel : ℕ} {queueIdx : UInt32}
    (hP : ∀ x ∈ requests vm hf vq fuel dev queueIdx, P x.1 x.2) :
    ∀ x ∈ requests vm hf vq fuel dev queueIdx, I x.1.disk := by
  obtain ⟨hro, hbs, -⟩ := h.setup
  refine (processQueue_disk_inv (fun x hx hI => ?_) (h.disk_inv step init)).2
  rw [hro, hbs]
  exact step x.1 x.2 (hP x hx) hI

end VirtioBlock

/-! ### What construction establishes -/

/-- A device that was constructed has the size of its image recorded, and blocks of 512
bytes. -/
theorem VirtioBlock.new_spec {evt : Except String EventFd} {mem : GuestMemory}
    {guestMem : UInt64} {irq : UInt32} {path : String} {readOnly : Bool}
    {dev : VirtioBlock Q F}
    (h : VirtioBlock.new hf vq evt mem guestMem irq path readOnly = .ok dev) :
    dev.readOnly = readOnly ∧ dev.blockSize = 512 ∧
      dev.diskSize.toNat = (hf.content dev.disk).length := by
  unfold VirtioBlock.new at h
  split at h
  · cases h
  · next file hopen =>
      split at h
      · cases h
      · next n hlen =>
          obtain rfl := Except.ok.inj h
          exact ⟨rfl, rfl, hf.metadataLen_ok hlen⟩

/-! ### Read-only disks -/

/-- No descriptor changes the image of a read-only disk. -/
theorem content_serveDesc_readOnly {blockSize : UInt32} (s : ReqState F) (d : Descriptor) :
    hf.content (serveDesc vm hf true blockSize s d).state.disk = hf.content s.disk := by
  rcases serveDesc_cases vm hf true blockSize s d
    with ⟨e, -, h⟩ | ⟨-, h⟩ | ⟨-, -, h⟩ | ⟨-, hro, -⟩ | ⟨-, h⟩ | ⟨t, -, -, -, -, h⟩
  · rw [h, Flow.state_exit]
  · rw [h, Flow.state_next, content_serveIn]
  · rw [h, Flow.state_exit]
  · cases hro
  · rw [h, Flow.state_next, hf.flush_content]
  · rw [h, Flow.state_exit]

/-- A write to a read-only disk leaves the inner loop with an I/O error. -/
theorem serveDesc_out_readOnly {blockSize : UInt32} {s : ReqState F} {d : Descriptor}
    (ht : requestType vm s.mem d = .ok virtioBlkTOut) :
    serveDesc vm hf true blockSize s d = .exit s (.ok virtioBlkSIoerr) := by
  rw [serveDesc, ht]
  rfl

/-- A visit on which a descriptor breaks with a status decides what happens to its chain:
nothing after it runs, and the chain is completed with that status. -/
theorem queueStep_of_break {readOnly : Bool} {blockSize : UInt32} {s : QueueState Q F}
    {chain : C} {queue : Q} {r : ReqState F} {d : Descriptor} {status : UInt8}
    (hpop : vq.pop s.mem s.queue = .ok (some (chain, queue)))
    (hv : (r, d) ∈ VirtioBlock.stepRequests vm hf vq readOnly blockSize s)
    (hd : serveDesc vm hf readOnly blockSize r d = .exit r (.ok status)) :
    serveChain vm hf vq readOnly blockSize ⟨s.mem, s.disk⟩ chain = (r, .ok status) ∧
      queueStep vm hf vq readOnly blockSize s =
        completeChain vq r queue (vq.headIndex chain) status := by
  have hchain : serveChain vm hf vq readOnly blockSize ⟨s.mem, s.disk⟩ chain =
      (r, .ok status) := by
    simp only [VirtioBlock.stepRequests, hpop] at hv
    rw [serveChain, forEach_exit hv hd]
  refine ⟨hchain, ?_⟩
  simp only [queueStep, hpop, hchain]

/-- **Read-only disks are immutable**: in every run from a device constructed read-only,
over any guest memory and any descriptor chains, the image keeps its bytes and its
length, in every state reached and within every further call; and a descriptor whose type
reads as a write ends its chain, which is completed with an I/O error. -/
theorem readOnly_run {evt : Except String EventFd} {mem : GuestMemory}
    {guestMem : UInt64} {irq : UInt32} {path : String} {dev₀ dev : VirtioBlock Q F}
    (hnew : VirtioBlock.new hf vq evt mem guestMem irq path true = .ok dev₀)
    (hrun : VirtioBlock.Run vm hf vq (fun _ _ => True) dev₀ dev) :
    hf.content dev.disk = hf.content dev₀.disk ∧
      ∀ fuel queueIdx,
        (∀ x ∈ VirtioBlock.requests vm hf vq fuel dev queueIdx,
          hf.content x.1.disk = hf.content dev₀.disk) ∧
        ∀ s ∈ VirtioBlock.heads vm hf vq fuel dev queueIdx,
        ∀ chain queue, vq.pop s.mem s.queue = .ok (some (chain, queue)) →
        ∀ r d, (r, d) ∈ VirtioBlock.stepRequests vm hf vq dev.readOnly dev.blockSize s →
          requestType vm r.mem d = .ok virtioBlkTOut →
          serveChain vm hf vq dev.readOnly dev.blockSize ⟨s.mem, s.disk⟩ chain =
              (r, .ok virtioBlkSIoerr) ∧
            queueStep vm hf vq dev.readOnly dev.blockSize s =
              completeChain vq r queue (vq.headIndex chain) virtioBlkSIoerr := by
  have hro₀ := (VirtioBlock.new_spec hnew).1
  have hro : dev.readOnly = true := hrun.setup.1.trans hro₀
  have step : ∀ s d, True → hf.content s.disk = hf.content dev₀.disk →
      hf.content (serveDesc vm hf dev₀.readOnly dev₀.blockSize s d).state.disk =
        hf.content dev₀.disk := by
    intro s d _ hI
    rw [hro₀, content_serveDesc_readOnly, hI]
  refine ⟨hrun.disk_inv (I := fun f => hf.content f = hf.content dev₀.disk) step rfl,
    fun fuel queueIdx => ⟨?_, ?_⟩⟩
  · exact hrun.requests_disk_inv (I := fun f => hf.content f = hf.content dev₀.disk) step rfl
      (fun _ _ => trivial)
  · intro s _ chain queue hpop r d hv ht
    rw [hro] at hv ⊢
    exact queueStep_of_break hpop hv (serveDesc_out_readOnly ht)

/-- Sixteen bytes of header and one of data, at address zero. -/
def oneByteDesc : Descriptor where
  addr := 0
  len := 17
  flags := 0

/-- A queue with one chain of that one descriptor. -/
def oneByteRequest : ScriptedQueue where
  avail := [(0, [oneByteDesc])]
  used := []

/-- A device just attached, with its memory and queue set up by the guest for an `OUT`
request of one byte. -/
def oneByteDevice (image : List UInt8) (readOnly : Bool) : VirtioBlock ScriptedQueue DiskFile where
  config :=
    { mem := GuestMemory.page [1]
      guestMem := 0
      irq := 6
      queues := [oneByteRequest]
      interruptEvt := some ⟨0⟩ }
  disk := ⟨image, 0⟩
  diskSize := UInt64.ofNat image.length
  blockSize := 512
  readOnly := readOnly

/-- The device after the guest's notification. -/
def oneByteServed (image : List UInt8) (readOnly : Bool) : VirtioBlock ScriptedQueue DiskFile :=
  (VirtioBlock.processQueue VmMemory.mmap (DiskFile.host image) ScriptedQueue.queue 2
    (oneByteDevice image readOnly) 0).1

/-- The device as constructed, before the guest sets up the queue. -/
def attachedDevice (image : List UInt8) (readOnly : Bool) : VirtioBlock ScriptedQueue DiskFile :=
  { oneByteDevice image readOnly with
    config := { (oneByteDevice image readOnly).config with queues := [⟨[], []⟩] } }

theorem new_attachedDevice {image : List UInt8} (h : image.length < 2 ^ 64)
    (readOnly : Bool) :
    VirtioBlock.new (DiskFile.host image) ScriptedQueue.queue (.ok ⟨0⟩) (GuestMemory.page [1])
      0 6 "disk.img" readOnly = .ok (attachedDevice image readOnly) := by
  simp only [VirtioBlock.new, DiskFile.host, ite_self, if_pos h]
  rfl

theorem serveDesc_oneByteDesc (image : List UInt8) (f : DiskFile) :
    serveDesc VmMemory.mmap (DiskFile.host image) false 512 ⟨GuestMemory.page [1], f⟩
        oneByteDesc =
      .next (serveOut VmMemory.mmap (DiskFile.host image) 512 ⟨GuestMemory.page [1], f⟩
        oneByteDesc) := by
  have ht : requestType VmMemory.mmap (GuestMemory.page [1]) oneByteDesc =
      .ok virtioBlkTOut := rfl
  rw [serveDesc, ht]
  rfl

/-- The one request a notification of the writable device handles. -/
theorem requests_oneByteDevice (image : List UInt8) :
    VirtioBlock.requests VmMemory.mmap (DiskFile.host image) ScriptedQueue.queue 2
      (oneByteDevice image false) 0 =
        [(⟨GuestMemory.page [1], ⟨image, 0⟩⟩, oneByteDesc)] := by
  simp [VirtioBlock.requests, VirtioBlock.heads, oneByteDevice, VirtioBlock.queueState,
    oneByteRequest, loopHeads, queueStep, serveChain, forEach, ScriptedQueue.queue,
    completeChain, serveDesc_oneByteDesc]
  simp [VirtioBlock.stepRequests, visits, serveDesc_oneByteDesc]

theorem oneByteServed_any {image : List UInt8} {readOnly : Bool} :
    VirtioBlock.Run VmMemory.mmap (DiskFile.host image) ScriptedQueue.queue (fun _ _ => True)
      (attachedDevice image readOnly) (oneByteServed image readOnly) :=
  .call (.guest .start (GuestMemory.page [1]) [oneByteRequest]) 2 0 fun _ _ => trivial

theorem readOnly_run_refuses_write :
    (oneByteServed [7] true).config.queues = [⟨[], [(0, virtioBlkSIoerr.toUInt32)]⟩] ∧
    (DiskFile.host [7]).content (oneByteServed [7] true).disk =
      (DiskFile.host [7]).content (attachedDevice [7] true).disk :=
  ⟨by decide +kernel, (readOnly_run (new_attachedDevice (by decide) true) oneByteServed_any).1⟩

/-! ### Writes and the size of the disk -/

/-- The write of an `OUT` request stays inside a disk of `size` bytes: it carries no data,
or it ends before the disk does from where the seek has left the file. -/
def WriteInside (vm : VmMemory) (hf : HostFile F) (blockSize : UInt32) (size : ℕ)
    (s : ReqState F) (d : Descriptor) : Prop :=
  requestType vm s.mem d = .ok virtioBlkTOut →
    dataLen d = 0 ∨
      hf.pos (hf.seek s.disk (requestOffset vm blockSize s.mem d)).1 + dataLen d ≤ size

/-- A write inside the disk keeps the length of the image. -/
theorem length_serveOut {blockSize : UInt32} {s : ReqState F} {d : Descriptor}
    (h : dataLen d = 0 ∨
      hf.pos (hf.seek s.disk (requestOffset vm blockSize s.mem d)).1 + dataLen d ≤
        (hf.content s.disk).length) :
    (hf.content (serveOut vm hf blockSize s d).disk).length = (hf.content s.disk).length := by
  simp only [serveOut]
  rcases h with h | h
  · rw [List.eq_nil_of_length_eq_zero ((length_outData s.mem d).trans h),
      hf.content_writeAll_nil, hf.seek_content]
  · rw [hf.length_writeAll (by rw [length_outData, hf.seek_content]; exact h),
      hf.seek_content]

/-- A descriptor whose write is inside the disk keeps the length of the image. -/
theorem length_serveDesc {readOnly : Bool} {blockSize : UInt32} {s : ReqState F}
    {d : Descriptor} (h : WriteInside vm hf blockSize (hf.content s.disk).length s d) :
    (hf.content (serveDesc vm hf readOnly blockSize s d).state.disk).length =
      (hf.content s.disk).length := by
  rcases serveDesc_cases vm hf readOnly blockSize s d
    with ⟨e, -, hd⟩ | ⟨-, hd⟩ | ⟨-, -, hd⟩ | ⟨ht, -, hd⟩ | ⟨-, hd⟩ | ⟨t, -, -, -, -, hd⟩
  · rw [hd, Flow.state_exit]
  · rw [hd, Flow.state_next, content_serveIn]
  · rw [hd, Flow.state_exit]
  · rw [hd, Flow.state_next, length_serveOut (h ht)]
  · rw [hd, Flow.state_next, hf.flush_content]
  · rw [hd, Flow.state_exit]

/-- **Writes inside the disk keep its size**: in every run from a writable device all of
whose writes stay inside the disk, the image has the length recorded at construction, in
every state reached and whenever a request is met. -/
theorem writable_run_length {evt : Except String EventFd} {mem : GuestMemory}
    {guestMem : UInt64} {irq : UInt32} {path : String} {dev₀ dev : VirtioBlock Q F}
    (hnew : VirtioBlock.new hf vq evt mem guestMem irq path false = .ok dev₀)
    (hrun : VirtioBlock.Run vm hf vq (WriteInside vm hf 512 dev₀.diskSize.toNat) dev₀ dev) :
    (hf.content dev.disk).length = dev.diskSize.toNat ∧
      dev.diskSize = dev₀.diskSize ∧
      ∀ fuel queueIdx,
        (∀ x ∈ VirtioBlock.requests vm hf vq fuel dev queueIdx,
          WriteInside vm hf 512 dev₀.diskSize.toNat x.1 x.2) →
        ∀ x ∈ VirtioBlock.requests vm hf vq fuel dev queueIdx,
          (hf.content x.1.disk).length = dev.diskSize.toNat := by
  obtain ⟨-, hbs, hlen⟩ := VirtioBlock.new_spec hnew
  have hsize := hrun.setup.2.2
  have step : ∀ s d, WriteInside vm hf 512 dev₀.diskSize.toNat s d →
      (hf.content s.disk).length = dev₀.diskSize.toNat →
      (hf.content (serveDesc vm hf dev₀.readOnly dev₀.blockSize s d).state.disk).length =
        dev₀.diskSize.toNat := by
    intro s d hP hI
    rw [hbs, length_serveDesc (by rw [hI]; exact hP), hI]
  rw [hsize]
  refine ⟨hrun.disk_inv (I := fun f => (hf.content f).length = dev₀.diskSize.toNat)
    step hlen.symm, rfl, fun fuel queueIdx hP => ?_⟩
  exact hrun.requests_disk_inv (I := fun f => (hf.content f).length = dev₀.diskSize.toNat)
    step hlen.symm hP

theorem oneByteServed_run {P : ReqState DiskFile → Descriptor → Prop} {image : List UInt8}
    (hP : P ⟨GuestMemory.page [1], ⟨image, 0⟩⟩ oneByteDesc) :
    VirtioBlock.Run VmMemory.mmap (DiskFile.host image) ScriptedQueue.queue P
      (attachedDevice image false) (oneByteServed image false) := by
  refine .call (.guest .start (GuestMemory.page [1]) [oneByteRequest]) 2 0 fun x hx => ?_
  have hx : x ∈ VirtioBlock.requests VmMemory.mmap (DiskFile.host image)
    ScriptedQueue.queue 2 (oneByteDevice image false) 0 := hx
  rw [requests_oneByteDevice, List.mem_singleton] at hx
  rw [hx]
  exact hP

/-- A write of one byte at byte 512, on an image that reaches that far. -/
theorem writeInside_oneByteDesc {image : List UInt8} (hlo : 513 ≤ image.length)
    (hhi : image.length < 2 ^ 64) :
    WriteInside VmMemory.mmap (DiskFile.host image) 512
      (attachedDevice image false).diskSize.toNat
      ⟨GuestMemory.page [1], ⟨image, 0⟩⟩ oneByteDesc := by
  have hsize : (attachedDevice image false).diskSize.toNat = image.length :=
    (UInt64.toNat_ofNat' ..).trans (Nat.mod_eq_of_lt hhi)
  have hoff : requestOffset VmMemory.mmap 512 (GuestMemory.page [1]) oneByteDesc = 512 := rfl
  intro _
  right
  rw [hsize, hoff]
  exact hlo

theorem writable_run_length_twoSectors :
    ((DiskFile.host (List.replicate 1024 0)).content
        (oneByteServed (List.replicate 1024 0) false).disk).length =
      (oneByteServed (List.replicate 1024 0) false).diskSize.toNat := by
  have hlen : (List.replicate 1024 (0 : UInt8)).length = 1024 := List.length_replicate
  have hlt : (List.replicate 1024 (0 : UInt8)).length < 2 ^ 64 := by
    rw [hlen]
    decide
  exact (writable_run_length (new_attachedDevice hlt false)
    (oneByteServed_run (writeInside_oneByteDesc (by omega) hlt))).1

/-- One `OUT` request to an empty image makes it grow to 513 bytes: the write lands at
byte 512 and nothing compares it with the size recorded. -/
theorem outOfRange_grows :
    VirtioBlock.new (DiskFile.host []) ScriptedQueue.queue (.ok ⟨0⟩) (GuestMemory.page [1])
        0 6 "disk.img" false = .ok (attachedDevice [] false) ∧
      VirtioBlock.Run VmMemory.mmap (DiskFile.host []) ScriptedQueue.queue (fun _ _ => True)
        (attachedDevice [] false) (oneByteServed [] false) ∧
      (oneByteServed [] false).diskSize = 0 ∧
      (oneByteServed [] false).disk.content.length = 513 :=
  ⟨new_attachedDevice (by decide) false, oneByteServed_any,
    by decide +kernel, by decide +kernel⟩

end MoVm
