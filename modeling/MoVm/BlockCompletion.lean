import MoVm.BlockChain
import MoVm.Lib.Trace

/-!
# What a Call of the Block Device Leaves Behind

Which chains a call of `process_queue` completes, and which bytes of guest memory it changes,
for chains of any shape: buffers may lie anywhere, also in the rings or in each other's headers,
so that what the device pops and reads later depends on what it has written before.

All that is assumed of the queue is `VirtioQueue.UsedRing`. What the device does is given by the
states at the head of its outer loop (`VirtioBlock.heads`) and by the descriptors it hands to the
inner loop (`VirtioBlock.requests`), each with the state it is met in.

## Main results

* `queueStep_cases`: the inversion of the outer loop's body.
* `requests_completed`: along every sequence of calls whose descriptors all begin in guest memory
  and whose head indices the queue accepts, the chains in the used ring are those popped, in
  order. The device does not check the former: `unreadable_request_lost`.
* `processQueue_memory_frame`: a call changes the used ring and the data part of read requests,
  and nothing else.
-/

open Lib

namespace MoVm

variable {Q C F : Type} {vm : VmMemory} {hf : HostFile F} {vq : VirtioQueue Q C}
  {readOnly : Bool} {blockSize : UInt32}

/-! ### One iteration -/

variable (vm hf vq readOnly blockSize) in
/-- **Inversion of the outer loop body**: the queue cannot be iterated, there is no chain, a
chain is popped and has an unreadable descriptor, or it is served and put in the used ring, which
may fail. -/
theorem queueStep_cases (s : QueueState Q F) :
    (∃ e, vq.pop s.mem s.queue = .error e ∧ queueStep vm hf vq readOnly blockSize s =
      .exit s (.error (.memoryError ("Failed to iterate queue: " ++ e)))) ∨
    (vq.pop s.mem s.queue = .ok none ∧
      queueStep vm hf vq readOnly blockSize s = .exit s (.ok ())) ∨
    ∃ chain q r, vq.pop s.mem s.queue = .ok (some (chain, q)) ∧
      ((∃ e, serveChain vm hf vq readOnly blockSize ⟨s.mem, s.disk⟩ chain = (r, .error e) ∧
        queueStep vm hf vq readOnly blockSize s = .exit ⟨r.mem, r.disk, q⟩ (.error e)) ∨
      ∃ status, serveChain vm hf vq readOnly blockSize ⟨s.mem, s.disk⟩ chain = (r, .ok status) ∧
        queueStep vm hf vq readOnly blockSize s =
          completeChain vq r q (vq.headIndex chain) status) := by
  rcases hpop : vq.pop s.mem s.queue with e | _ | ⟨chain, q⟩
  · exact .inl ⟨e, rfl, by simp only [queueStep, hpop]⟩
  · exact .inr (.inl ⟨rfl, by simp only [queueStep, hpop]⟩)
  · rcases hserve : serveChain vm hf vq readOnly blockSize ⟨s.mem, s.disk⟩ chain with
      ⟨r, e | status⟩
    · exact .inr (.inr ⟨chain, q, r, rfl, .inl ⟨e, hserve, by simp only [queueStep, hpop, hserve]⟩⟩)
    · exact .inr (.inr ⟨chain, q, r, rfl,
        .inr ⟨status, hserve, by simp only [queueStep, hpop, hserve]⟩⟩)

/-- The queue and the memory after a chain has been put in the used ring. -/
theorem state_completeChain (r : ReqState F) (q : Q) (h : UInt16) (status : UInt8) :
    (completeChain vq r q h status).state =
      ⟨(vq.addUsed r.mem q h status.toUInt32).1, r.disk,
        (vq.addUsed r.mem q h status.toUInt32).2.1⟩ := by
  rw [completeChain]
  rcases vq.addUsed r.mem q h status.toUInt32 with ⟨m, q', _ | _⟩ <;> rfl

namespace VirtioBlock

/-- The entry that an iteration places in the used ring, if it places one. -/
def stepPlaced (vm : VmMemory) (hf : HostFile F) (vq : VirtioQueue Q C) (readOnly : Bool)
    (blockSize : UInt32) (s : QueueState Q F) : List (UInt16 × UInt32) :=
  match vq.pop s.mem s.queue with
  | .ok (some (chain, queue)) =>
      match serveChain vm hf vq readOnly blockSize { mem := s.mem, disk := s.disk } chain with
      | (_, .error _) => []
      | (r, .ok status) => vq.placed r.mem queue (vq.headIndex chain) status.toUInt32
  | _ => []

end VirtioBlock

variable (vm hf readOnly blockSize) in
/-- The used ring after an iteration. -/
theorem used_queueStep (ur : vq.UsedRing) (s : QueueState Q F) :
    ur.used (queueStep vm hf vq readOnly blockSize s).state.queue =
      ur.used s.queue ++ VirtioBlock.stepPlaced vm hf vq readOnly blockSize s := by
  rw [VirtioBlock.stepPlaced]
  rcases queueStep_cases vm hf vq readOnly blockSize s with
    ⟨e, hpop, hstep⟩ | ⟨hpop, hstep⟩ |
      ⟨chain, q, r, hpop, ⟨e, hserve, hstep⟩ | ⟨status, hserve, hstep⟩⟩
  · rw [hstep, hpop]
    exact (List.append_nil _).symm
  · rw [hstep, hpop]
    exact (List.append_nil _).symm
  · simp only [hstep, hpop, hserve, Flow.state_exit, List.append_nil]
    exact ur.pop_used hpop
  · simp only [hstep, hpop, hserve, state_completeChain]
    rw [ur.used_addUsed, ur.pop_used hpop]

variable (vm hf readOnly blockSize) in
theorem area_queueStep (ur : vq.UsedRing) (s : QueueState Q F) :
    ur.area (queueStep vm hf vq readOnly blockSize s).state.queue = ur.area s.queue := by
  rcases queueStep_cases vm hf vq readOnly blockSize s with
    ⟨e, hpop, hstep⟩ | ⟨hpop, hstep⟩ |
      ⟨chain, q, r, hpop, ⟨e, hserve, hstep⟩ | ⟨status, hserve, hstep⟩⟩
  · rw [hstep, Flow.state_exit]
  · rw [hstep, Flow.state_exit]
  · rw [hstep, Flow.state_exit]
    exact ur.pop_area hpop
  · rw [hstep, state_completeChain]
    exact (ur.addUsed_area rfl).trans (ur.pop_area hpop)

/-! ### Chains that are completed -/

variable (vm hf vq readOnly blockSize) in
/-- The inner loop keeps the layout of guest memory. -/
theorem layout_serveChain (s : ReqState F) (chain : C) :
    (serveChain vm hf vq readOnly blockSize s chain).1.mem.layout = s.mem.layout := by
  rw [serveChain_fst]
  exact (forEach_inv (I := fun t : ReqState F => t.mem.layout = s.mem.layout)
    (fun x _ hx => (mem_serveDesc vm hf readOnly blockSize x.1 x.2).1.trans hx) rfl).1

/-- The descriptors that the inner loop meets on a chain, each with the state it is met in. -/
def chainRequests (vm : VmMemory) (hf : HostFile F) (vq : VirtioQueue Q C) (readOnly : Bool)
    (blockSize : UInt32) (s : ReqState F) (chain : C) : List (ReqState F × Descriptor) :=
  visits (fun t c => vq.next t.mem c) (serveDesc vm hf readOnly blockSize) (vq.ttl chain) chain s

/-- The requests of an iteration are those of the chain it pops. -/
theorem VirtioBlock.stepRequests_of_pop {s : QueueState Q F} {chain : C} {queue : Q}
    (hpop : vq.pop s.mem s.queue = .ok (some (chain, queue))) :
    VirtioBlock.stepRequests vm hf vq readOnly blockSize s =
      chainRequests vm hf vq readOnly blockSize ⟨s.mem, s.disk⟩ chain := by
  simp only [VirtioBlock.stepRequests, hpop, chainRequests]

/-- All descriptors of a chain are met with the layout of the memory it was popped from. -/
theorem layout_of_mem_chainRequests {s : ReqState F} {chain : C} {x : ReqState F × Descriptor}
    (hx : x ∈ chainRequests vm hf vq readOnly blockSize s chain) :
    x.1.mem.layout = s.mem.layout :=
  (forEach_inv (I := fun t : ReqState F => t.mem.layout = s.mem.layout)
    (fun x _ h => (mem_serveDesc vm hf readOnly blockSize x.1 x.2).1.trans h) rfl).2 x hx

/-- A descriptor ends the call exactly when its type is not in guest memory. -/
theorem serveDesc_error_iff (s : ReqState F) (d : Descriptor) :
    (∃ t e, serveDesc vm hf readOnly blockSize s d = .exit t (.error e)) ↔
      ¬s.mem.layout.Covers d.addr.toNat 4 := by
  constructor
  · rintro ⟨t, e, hexit⟩ hcov
    have htype : requestType vm s.mem d = .ok _ := requestType_of_covers hcov
    rcases serveDesc_cases vm hf readOnly blockSize s d
      with ⟨e, ht, -⟩ | ⟨-, h⟩ | ⟨-, -, h⟩ | ⟨-, -, h⟩ | ⟨-, h⟩ | ⟨t, -, -, -, -, h⟩
    · rw [htype] at ht
      cases ht
    all_goals
      rw [h] at hexit
      cases hexit
  · intro hcov
    exact ⟨s, _, by rw [serveDesc, requestType_of_not_covers hcov]⟩

variable (vm hf vq readOnly blockSize) in
/-- **A chain is served** exactly when every descriptor that is reached begins in guest memory. -/
theorem serveChain_isOk_iff (s : ReqState F) (chain : C) :
    (∃ status, (serveChain vm hf vq readOnly blockSize s chain).2 = .ok status) ↔
      ∀ x ∈ chainRequests vm hf vq readOnly blockSize s chain,
        s.mem.layout.Covers x.2.addr.toNat 4 := by
  constructor
  · rintro ⟨status, hserve⟩ x hx
    by_contra hcov
    rw [← layout_of_mem_chainRequests hx] at hcov
    obtain ⟨t, e, hexit⟩ := (serveDesc_error_iff x.1 x.2).mpr hcov
    rw [serveChain, forEach_exit hx hexit] at hserve
    cases hserve
  · intro h
    rcases hloop : forEach (fun t c => vq.next t.mem c) (serveDesc vm hf readOnly blockSize)
      (vq.ttl chain) chain s with ⟨r, _ | e | status⟩
    · exact ⟨virtioBlkSOk, by rw [serveChain, hloop]⟩
    · obtain ⟨x, hx, hexit⟩ := exists_visit_of_forEach hloop
      have hcov := (serveDesc_error_iff x.1 x.2).mp ⟨_, _, hexit⟩
      rw [layout_of_mem_chainRequests hx] at hcov
      exact absurd (h x hx) hcov
    · exact ⟨status, by rw [serveChain, hloop]⟩

/-- What an iteration places in the used ring for the chain it pops: its status, if there is one
and the queue takes the chain back. -/
theorem VirtioBlock.stepPlaced_eq_iff (ac : vq.Acceptance) {s : QueueState Q F} {chain : C}
    {queue : Q} (hpop : vq.pop s.mem s.queue = .ok (some (chain, queue))) (n : UInt32) :
    VirtioBlock.stepPlaced vm hf vq readOnly blockSize s = [(vq.headIndex chain, n)] ↔
      ac.accepts s.mem.layout queue (vq.headIndex chain) ∧
        ∃ status, (serveChain vm hf vq readOnly blockSize ⟨s.mem, s.disk⟩ chain).2 = .ok status ∧
          n = status.toUInt32 := by
  have hL := layout_serveChain vm hf vq readOnly blockSize ⟨s.mem, s.disk⟩ chain
  simp only [VirtioBlock.stepPlaced, hpop]
  rcases hserve : serveChain vm hf vq readOnly blockSize ⟨s.mem, s.disk⟩ chain with ⟨r, e | status⟩
  · simp only [List.ne_cons_self, reduceCtorEq, false_and, exists_false, and_false]
  · rw [hserve] at hL
    have hok := ac.addUsed_ok_iff r.mem queue (vq.headIndex chain) status.toUInt32
    rw [hL] at hok
    dsimp only
    rw [← hok, VirtioQueue.placed]
    rcases (vq.addUsed r.mem queue (vq.headIndex chain) status.toUInt32).2.2 with e | ⟨⟩
    · simp only [List.ne_cons_self, reduceCtorEq, false_and]
    · simp only [List.cons.injEq, Prod.mk.injEq, true_and, and_true, Except.ok.injEq,
        exists_eq_left', eq_comm]

namespace VirtioBlock

/-- The chains a call pops, by head index, in order. -/
def poppedHeads (vm : VmMemory) (hf : HostFile F) (vq : VirtioQueue Q C) (fuel : ℕ)
    (dev : VirtioBlock Q F) : List UInt16 :=
  (heads vm hf vq fuel dev 0).flatMap fun t => vq.popped t.mem t.queue

/-- The chains in the used ring of the device, by head index, oldest first. -/
def usedHeads (ur : vq.UsedRing) (dev : VirtioBlock Q F) : List UInt16 :=
  match dev.config.queues with
  | [] => []
  | queue :: _ => (ur.used queue).map Prod.fst

/-- Every descriptor the call handles begins with four bytes of guest memory, and `add_used`
accepts the head index of every chain that is popped. -/
structure Completing (vm : VmMemory) (hf : HostFile F) (vq : VirtioQueue Q C) (fuel : ℕ)
    (dev : VirtioBlock Q F) : Prop where
  readable : ∀ x ∈ requests vm hf vq fuel dev 0, x.1.mem.layout.Covers x.2.addr.toNat 4
  accepted : ∀ t ∈ heads vm hf vq fuel dev 0, ∀ chain q,
    vq.pop t.mem t.queue = .ok (some (chain, q)) → ∀ m n, m.layout = t.mem.layout →
      (vq.addUsed m q (vq.headIndex chain) n).2.2 = .ok ()

/-- An iteration of such a call places the chain it pops. -/
theorem Completing.stepPlaced_eq {fuel : ℕ} {dev : VirtioBlock Q F}
    (hdev : Completing vm hf vq fuel dev) {t : QueueState Q F}
    (ht : t ∈ heads vm hf vq fuel dev 0) :
    (stepPlaced vm hf vq dev.readOnly dev.blockSize t).map Prod.fst =
      vq.popped t.mem t.queue := by
  rw [stepPlaced, VirtioQueue.popped]
  rcases hpop : vq.pop t.mem t.queue with e | _ | ⟨chain, q⟩
  · rfl
  · rfl
  · have hread : ∀ x ∈ chainRequests vm hf vq dev.readOnly dev.blockSize ⟨t.mem, t.disk⟩ chain,
        t.mem.layout.Covers x.2.addr.toNat 4 := by
      intro x hx
      rw [← layout_of_mem_chainRequests hx]
      refine hdev.readable x (List.mem_flatMap.mpr ⟨t, ht, ?_⟩)
      rwa [stepRequests_of_pop hpop]
    obtain ⟨status, hstatus⟩ :=
      (serveChain_isOk_iff vm hf vq dev.readOnly dev.blockSize ⟨t.mem, t.disk⟩ chain).mpr hread
    have hL := layout_serveChain vm hf vq dev.readOnly dev.blockSize ⟨t.mem, t.disk⟩ chain
    rcases hserve : serveChain vm hf vq dev.readOnly dev.blockSize ⟨t.mem, t.disk⟩ chain with
      ⟨r, res⟩
    rw [hserve] at hL hstatus
    obtain rfl : res = .ok status := hstatus
    simp only [hserve, VirtioQueue.placed,
      hdev.accepted t ht chain q hpop r.mem status.toUInt32 hL, List.map_cons, List.map_nil]

/-- **A call completes what it pops**. -/
theorem usedHeads_processQueue (ur : vq.UsedRing) {fuel : ℕ} {dev : VirtioBlock Q F}
    (hdev : Completing vm hf vq fuel dev) :
    usedHeads ur (processQueue vm hf vq fuel dev 0).1 =
      usedHeads ur dev ++ poppedHeads vm hf vq fuel dev := by
  rcases queue_cases dev 0 with h | ⟨-, queue, rest, hq⟩
  · obtain ⟨⟨e, he⟩, hnil⟩ := processQueue_of_no_queue vm hf vq h fuel
    rw [he, poppedHeads, hnil, List.flatMap_nil, List.append_nil]
  · obtain ⟨evt, r, hpq, -⟩ := processQueue_of_queue vm hf vq hq fuel
    have hlog := loop_log (queueStep vm hf vq dev.readOnly dev.blockSize)
      (fun t => (ur.used t.queue).map Prod.fst) (fun t => vq.popped t.mem t.queue) (n := fuel)
      (s := dev.queueState queue) fun t ht => by
        rw [used_queueStep, List.map_append]
        exact congrArg _ (hdev.stepPlaced_eq (by rwa [heads_of_queue hq]))
    simp only [usedHeads, hpq, hq, poppedHeads, heads_of_queue hq]
    exact hlog

/-- One call for the first queue that returns, after the guest has written to its memory. -/
def Call (vm : VmMemory) (hf : HostFile F) (vq : VirtioQueue Q C) (dev : VirtioBlock Q F)
    (call : GuestMemory × ℕ) (dev' : VirtioBlock Q F) (result : Except HypervisorError Unit) :
    Prop :=
  processQueue vm hf vq call.2 (dev.offer call.1 dev.config.queues) 0 = (dev', some result)

/-- The chains that a call of a trace pops. -/
def callPopped (vm : VmMemory) (hf : HostFile F) (vq : VirtioQueue Q C)
    (x : VirtioBlock Q F × (GuestMemory × ℕ) × Except HypervisorError Unit) : List UInt16 :=
  poppedHeads vm hf vq x.2.1.2 (x.1.offer x.2.1.1 x.1.config.queues)

end VirtioBlock

/-- **Every request popped is completed**: in every sequence of calls in which the descriptors
handled begin in guest memory and `add_used` accepts the head indices, whatever the guest writes
to its memory in between, the used ring has got exactly the chains that were popped, in this
order, whenever a call has returned. -/
theorem requests_completed (ur : vq.UsedRing) {dev dev' : VirtioBlock Q F}
    {calls : List (VirtioBlock Q F × (GuestMemory × ℕ) × Except HypervisorError Unit)}
    (htrace : Trace (fun dev call dev' result => VirtioBlock.Call vm hf vq dev call dev' result ∧
      VirtioBlock.Completing vm hf vq call.2 (dev.offer call.1 dev.config.queues))
      dev calls dev') :
    dev'.usedHeads ur = dev.usedHeads ur ++ calls.flatMap (VirtioBlock.callPopped vm hf vq) ∧
    ∀ before x after, calls = before ++ x :: after →
      x.1.usedHeads ur =
        dev.usedHeads ur ++ before.flatMap (VirtioBlock.callPopped vm hf vq) := by
  refine htrace.history (I := fun past t => t.usedHeads ur =
    dev.usedHeads ur ++ past.flatMap (VirtioBlock.callPopped vm hf vq)) ?_ (List.append_nil _).symm
  rintro past t ⟨mem, fuel⟩ t' result ht ⟨hcall, hok⟩
  have hused := VirtioBlock.usedHeads_processQueue ur hok
  rw [hcall] at hused
  have hoffer : (t.offer mem t.config.queues).usedHeads ur = t.usedHeads ur := rfl
  rw [hused, hoffer, ht, List.append_assoc, List.flatMap_append, List.flatMap_cons,
    List.flatMap_nil, List.append_nil]
  rfl

/-- A device with one page of memory, which begins with these bytes, and one available chain of
one descriptor at this address. -/
def oneChainDevice (bytes : List UInt8) (addr : UInt64) : VirtioBlock ScriptedQueue DiskFile where
  config :=
    { mem := GuestMemory.page bytes
      guestMem := 0
      irq := 6
      queues := [⟨[(0, [⟨addr, 16, 0⟩])], []⟩]
      interruptEvt := some ⟨0⟩ }
  disk := ⟨[], 0⟩
  diskSize := 0
  blockSize := 512
  readOnly := false

theorem serveDesc_flush :
    serveDesc VmMemory.mmap (DiskFile.host []) false 512 ⟨GuestMemory.page [4], ⟨[], 0⟩⟩
      ⟨0, 16, 0⟩ = .next ⟨GuestMemory.page [4], ⟨[], 0⟩⟩ := by
  have htype : requestType VmMemory.mmap (GuestMemory.page [4]) ⟨0, 16, 0⟩ =
      .ok virtioBlkTFlush := rfl
  rw [serveDesc, htype]
  rfl

/-- What the device with a flush request does in two iterations. -/
theorem heads_flush :
    VirtioBlock.heads VmMemory.mmap (DiskFile.host []) ScriptedQueue.queue 2
      (oneChainDevice [4] 0) 0 =
        [⟨GuestMemory.page [4], ⟨[], 0⟩, ⟨[(0, [⟨0, 16, 0⟩])], []⟩⟩,
          ⟨GuestMemory.page [4], ⟨[], 0⟩, ⟨[], [(0, 0)]⟩⟩] := by
  simp [VirtioBlock.heads, oneChainDevice, VirtioBlock.queueState, loopHeads, queueStep,
    serveChain, forEach, ScriptedQueue.queue, completeChain, serveDesc_flush, virtioBlkSOk]

/-- A flush request is completed. -/
theorem requests_completed_flush :
    ∃ dev' result, VirtioBlock.Call VmMemory.mmap (DiskFile.host []) ScriptedQueue.queue
        (oneChainDevice [4] 0) (GuestMemory.page [4], 2) dev' result ∧
      dev'.usedHeads ScriptedQueue.usedRing = [0] := by
  obtain ⟨dev', result, hcall⟩ : ∃ dev' result, VirtioBlock.Call VmMemory.mmap (DiskFile.host [])
      ScriptedQueue.queue (oneChainDevice [4] 0) (GuestMemory.page [4], 2) dev' result :=
    ⟨_, _, rfl⟩
  have hpopped : VirtioBlock.poppedHeads VmMemory.mmap (DiskFile.host []) ScriptedQueue.queue 2
      (oneChainDevice [4] 0) = [0] := by
    rw [VirtioBlock.poppedHeads, heads_flush]
    rfl
  have hok : VirtioBlock.Completing VmMemory.mmap (DiskFile.host []) ScriptedQueue.queue 2
      (oneChainDevice [4] 0) := by
    refine ⟨fun x hx => ?_, fun _ _ _ _ _ _ _ _ => rfl⟩
    rw [VirtioBlock.requests, heads_flush] at hx
    simp only [VirtioBlock.stepRequests, ScriptedQueue.queue, List.flatMap_cons, List.flatMap_nil,
      List.append_nil, visits, List.length_cons, List.length_nil, oneChainDevice,
      serveDesc_flush, List.mem_singleton] at hx
    subst hx
    decide
  have hused := (requests_completed ScriptedQueue.usedRing (.cons ⟨hcall, hok⟩ (.nil dev'))).1
  have hnone : (oneChainDevice [4] 0).usedHeads ScriptedQueue.usedRing = [] := rfl
  rw [List.flatMap_cons, List.flatMap_nil, List.append_nil, hnone, List.nil_append] at hused
  exact ⟨dev', result, hcall, hused.trans hpopped⟩

/-- **A request with an unreadable descriptor is lost**: the chain is popped, the call returns an
error, and the chain is not in the used ring. -/
theorem unreadable_request_lost :
    ∃ dev', VirtioBlock.Call VmMemory.mmap (DiskFile.host []) ScriptedQueue.queue
        (oneChainDevice [] 0x5000) (GuestMemory.page [], 1) dev'
        (.error (.memoryError "Failed to read request type")) ∧
      VirtioBlock.poppedHeads VmMemory.mmap (DiskFile.host []) ScriptedQueue.queue 1
        (oneChainDevice [] 0x5000) = [0] ∧
      (oneChainDevice [] 0x5000).usedHeads ScriptedQueue.usedRing = [] ∧
      dev'.usedHeads ScriptedQueue.usedRing = [] :=
  ⟨_, rfl, rfl, rfl, rfl⟩

/-! ### What a call writes -/

/-- The address is in the data part of the descriptor's buffer, and the descriptor is a read
request in this memory. -/
def ReadsInto (vm : VmMemory) (m : GuestMemory) (d : Descriptor) (a : ℕ) : Prop :=
  requestType vm m d = .ok virtioBlkTIn ∧ d.addr.toNat + 16 ≤ a ∧
    a < d.addr.toNat + d.len.toNat

/-- A read request writes to its buffer only, at an address that does not wrap around. -/
theorem serveDesc_writes {s : ReqState F} {d : Descriptor} {a : ℕ}
    (h : (serveDesc vm hf readOnly blockSize s d).state.mem.bytes a ≠ s.mem.bytes a) :
    ReadsInto vm s.mem d a ∧ d.addr.toNat + 16 < 2 ^ 64 := by
  rcases serveDesc_cases vm hf readOnly blockSize s d
    with ⟨e, -, hd⟩ | ⟨ht, hd⟩ | ⟨-, -, hd⟩ | ⟨-, -, hd⟩ | ⟨-, hd⟩ | ⟨t, -, -, -, -, hd⟩
  · rw [hd] at h
    exact absurd rfl h
  · rw [hd, Flow.state_next] at h
    refine ⟨⟨ht, ?_⟩, ?_⟩
    · by_contra hout
      exact h ((mem_serveIn s d).2 a hout)
    · by_contra hwrap
      have hnone : checkedAdd d.addr 16 = none := if_neg hwrap
      simp only [serveIn, hnone] at h
      exact h rfl
  all_goals
    rw [hd] at h
    exact absurd rfl h

theorem GuestMemory.eq_of_bytes {m m' : GuestMemory} (hL : m'.layout = m.layout)
    (hb : ∀ a, m'.bytes a = m.bytes a) : m' = m := by
  obtain ⟨L, f⟩ := m
  obtain ⟨L', f'⟩ := m'
  obtain rfl : L' = L := hL
  obtain rfl : f' = f := funext hb
  rfl

/-- A descriptor that is no read request, or has no room behind its header, leaves memory as it
is. -/
theorem serveDesc_quiet {s : ReqState F} {d : Descriptor}
    (h : requestType vm s.mem d ≠ .ok virtioBlkTIn ∨ d.len.toNat ≤ 16) :
    (serveDesc vm hf readOnly blockSize s d).state.mem = s.mem := by
  refine GuestMemory.eq_of_bytes (mem_serveDesc vm hf readOnly blockSize s d).1 fun a => ?_
  by_contra hne
  obtain ⟨⟨ht, hlo, hhi⟩, -⟩ := serveDesc_writes hne
  rcases h with h | h
  · exact h ht
  · omega

/-- The inner loop writes where its read requests do. -/
theorem serveChain_writes {s : ReqState F} {chain : C} {a : ℕ}
    (h : (serveChain vm hf vq readOnly blockSize s chain).1.mem.bytes a ≠ s.mem.bytes a) :
    ∃ x ∈ visits (fun t c => vq.next t.mem c) (serveDesc vm hf readOnly blockSize)
      (vq.ttl chain) chain s, ReadsInto vm x.1.mem x.2 a := by
  by_contra hno
  refine h ?_
  rw [serveChain_fst]
  refine (forEach_inv (I := fun t : ReqState F => t.mem.bytes a = s.mem.bytes a)
    (fun x hx hI => ?_) rfl).1
  by_contra hne
  exact hno ⟨x, hx, (serveDesc_writes (hI ▸ hne)).1⟩

/-- An iteration writes to the used ring and where its read requests do. -/
theorem queueStep_writes (ur : vq.UsedRing) {s : QueueState Q F} {a : ℕ}
    (h : (queueStep vm hf vq readOnly blockSize s).state.mem.bytes a ≠ s.mem.bytes a) :
    ur.area s.queue a ∨ ∃ x ∈ VirtioBlock.stepRequests vm hf vq readOnly blockSize s,
      ReadsInto vm x.1.mem x.2 a := by
  rcases queueStep_cases vm hf vq readOnly blockSize s with
    ⟨e, hpop, hstep⟩ | ⟨hpop, hstep⟩ | ⟨chain, q, r, hpop, hcase⟩
  · rw [hstep] at h
    exact absurd rfl h
  · rw [hstep] at h
    exact absurd rfl h
  · simp only [VirtioBlock.stepRequests, hpop]
    by_cases hchain : r.mem.bytes a = s.mem.bytes a
    · -- the chain has not changed this byte, so the used ring has it
      left
      by_contra harea
      rcases hcase with ⟨e, hserve, hstep⟩ | ⟨status, hserve, hstep⟩
      · rw [hstep] at h
        exact h hchain
      · rw [hstep, state_completeChain] at h
        rw [← ur.pop_area hpop] at harea
        exact h ((ur.addUsed_frame rfl a harea).trans hchain)
    · right
      have hfst : (serveChain vm hf vq readOnly blockSize ⟨s.mem, s.disk⟩ chain).1 = r := by
        rcases hcase with ⟨e, hserve, -⟩ | ⟨status, hserve, -⟩ <;> rw [hserve]
      exact serveChain_writes (hfst ▸ hchain)

/-- **Memory frame of `process_queue`**: every byte of guest memory that a call has changed is in
the used ring of the queue, or in the data part of a descriptor that was read as a read request
when it was met. Other requests, and those with no room behind their header, change nothing, and
no address that is accessed has wrapped around. -/
theorem processQueue_memory_frame (vm : VmMemory) (hf : HostFile F) (ur : vq.UsedRing)
    (fuel : ℕ) (dev : VirtioBlock Q F) (queueIdx : UInt32) :
    (∀ a, (VirtioBlock.processQueue vm hf vq fuel dev queueIdx).1.config.mem.bytes a ≠
        dev.config.mem.bytes a →
      (∃ queue, dev.config.queues.head? = some queue ∧ ur.area queue a) ∨
      ∃ x ∈ VirtioBlock.requests vm hf vq fuel dev queueIdx,
        requestType vm x.1.mem x.2 = .ok virtioBlkTIn ∧ x.2.addr.toNat + 16 ≤ a ∧
          a < x.2.addr.toNat + x.2.len.toNat) ∧
    ∀ x ∈ VirtioBlock.requests vm hf vq fuel dev queueIdx,
      (requestType vm x.1.mem x.2 ≠ .ok virtioBlkTIn ∨ x.2.len.toNat ≤ 16 →
        (serveDesc vm hf dev.readOnly dev.blockSize x.1 x.2).state.mem = x.1.mem) ∧
      ((serveDesc vm hf dev.readOnly dev.blockSize x.1 x.2).state.mem ≠ x.1.mem →
        x.2.addr.toNat + 16 < 2 ^ 64) ∧
      ∀ w, checkedAdd x.2.addr 16 = some w → w = x.2.addr.toNat + 16 ∧ w < 2 ^ 64 := by
  refine ⟨fun a ha => ?_, fun x _ => ⟨serveDesc_quiet, fun hne => ?_, fun w hw => ?_⟩⟩
  · rcases VirtioBlock.queue_cases dev queueIdx with h | ⟨rfl, queue, rest, hq⟩
    · obtain ⟨⟨e, he⟩, -⟩ := VirtioBlock.processQueue_of_no_queue vm hf vq h fuel
      rw [he] at ha
      exact absurd rfl ha
    · obtain ⟨evt, r, hpq, -⟩ := VirtioBlock.processQueue_of_queue vm hf vq hq fuel
      rw [hpq] at ha
      rw [hq, VirtioBlock.requests, VirtioBlock.heads_of_queue hq]
      by_contra hno
      rw [not_or] at hno
      refine ha ((loop_inv (I := fun t : QueueState Q F => ur.area t.queue = ur.area queue ∧
        t.mem.bytes a = dev.config.mem.bytes a) (fun t ht hI => ?_) ⟨rfl, rfl⟩).1.2)
      refine ⟨(area_queueStep vm hf dev.readOnly dev.blockSize ur t).trans hI.1, ?_⟩
      by_contra hne
      rcases queueStep_writes ur (hI.2 ▸ hne) with harea | ⟨x, hx, hreads⟩
      · exact hno.1 ⟨queue, rfl, hI.1 ▸ harea⟩
      · exact hno.2 ⟨x, List.mem_flatMap.mpr ⟨t, ht, hx⟩, hreads⟩
  · by_contra hwrap
    refine hne (GuestMemory.eq_of_bytes
      (mem_serveDesc vm hf dev.readOnly dev.blockSize x.1 x.2).1 fun a => ?_)
    by_contra hbyte
    exact hwrap (serveDesc_writes hbyte).2
  · rw [checkedAdd] at hw
    split at hw
    · next hlt =>
        obtain rfl := Option.some.inj hw
        exact ⟨rfl, hlt⟩
    · cases hw

end MoVm
