import MoVm.BlockCompletion
import MoVm.BlockRequest
import MoVm.ConsoleNet

/-!
# What `process_queue` of the Block Device Loses

The loop in `process_queue` is a copy of `process_request` that ignores the results of the calls
it makes, and three things are lost on the way: a request that fails is completed like one that
does not, the status does not reach the guest's status byte, and the offset of a request is a
64-bit product that may have wrapped around. For each of them this module says exactly when it
makes no difference.

All three are read off the descriptors the inner loop meets, each with the state it is met in:
`chainRequests`. A chain is completed when its descriptors can be read and the queue takes it back
(`VirtioQueue.Acceptance`).

## Main results

* `failed_requests_iff`: when a chain that `process_request` fails on is not completed with `OK`.
* `status_in_guest_iff`: when the guest finds the status of a chain in its status byte.
* `seek_offsets_iff`: when the offsets handed to `seek` are those of the sectors.
-/

open Lib

namespace MoVm

variable {Q C F : Type} {vm : VmMemory} {hf : HostFile F} {vq : VirtioQueue Q C}
  {readOnly : Bool} {blockSize : UInt32}

/-! ### Requests that fail -/

/-- The chain ends at this descriptor: its type cannot be read or is not supported, or it is a
write to a read-only disk. -/
def Refused (vm : VmMemory) (readOnly : Bool) (x : ReqState F × Descriptor) : Prop :=
  ∀ t, requestType vm x.1.mem x.2 = .ok t →
    (t = virtioBlkTOut ∧ readOnly = true) ∨
      (t ≠ virtioBlkTIn ∧ t ≠ virtioBlkTOut ∧ t ≠ virtioBlkTFlush)

/-- None of the calls fails whose results are ignored. -/
def GoesThrough (vm : VmMemory) (hf : HostFile F) (blockSize : UInt32)
    (x : ReqState F × Descriptor) : Prop :=
  (requestType vm x.1.mem x.2 = .ok virtioBlkTIn → ReadsThrough vm hf blockSize x) ∧
    (requestType vm x.1.mem x.2 = .ok virtioBlkTOut → WritesThrough vm hf blockSize x) ∧
    (requestType vm x.1.mem x.2 = .ok virtioBlkTFlush → (hf.flush x.1.disk).2 = .ok ())

theorem handleRead_ok_iff (s : ReqState F) (d : Descriptor) :
    (handleRead vm hf blockSize s d).2 = .ok () ↔ ReadsThrough vm hf blockSize (s, d) := by
  rcases handleRead_cases vm hf blockSize s d with ⟨hsector, e, h⟩ | ⟨-, hfail, e, t, h, -⟩ |
    ⟨hgo, h⟩
  · simp only [h, reduceCtorEq, false_iff]
    exact fun hgo => hsector hgo.1
  · simp only [h, hfail, reduceCtorEq]
  · simp only [h, hgo]

theorem handleWrite_ok_iff (s : ReqState F) (d : Descriptor) :
    (handleWrite vm hf blockSize s d).2 = .ok () ↔ WritesThrough vm hf blockSize (s, d) := by
  rcases handleWrite_cases vm hf blockSize s d with ⟨hsector, e, h⟩ | ⟨-, hfail, e, t, h, -⟩ |
    ⟨hgo, h⟩
  · simp only [h, reduceCtorEq, false_iff]
    exact fun hgo => hsector hgo.1
  · simp only [h, hfail, reduceCtorEq]
  · simp only [h, hgo]

theorem handleFlush_ok_iff (s : ReqState F) :
    (handleFlush hf s).2 = .ok () ↔ (hf.flush s.disk).2 = .ok () := by
  simp only [handleFlush]
  rcases hf.flush s.disk with ⟨disk, e | ⟨⟩⟩
  · simp only [reduceCtorEq]
  · exact ⟨fun _ => rfl, fun _ => rfl⟩

theorem goOn_next_iff (r : ReqState F × Except HypervisorError Unit) :
    (∃ t, goOn r = .next t) ↔ r.2 = .ok () := by
  rcases r with ⟨s, e | ⟨⟩⟩
  · simp only [goOn, reduceCtorEq, exists_false]
  · exact ⟨fun _ => rfl, fun _ => ⟨s, rfl⟩⟩

/-- A descriptor with a type that can be read ends the chain when the type says so. -/
theorem refused_iff {x : ReqState F × Descriptor} {t : UInt32}
    (ht : requestType vm x.1.mem x.2 = .ok t) :
    Refused vm readOnly x ↔ (t = virtioBlkTOut ∧ readOnly = true) ∨
      (t ≠ virtioBlkTIn ∧ t ≠ virtioBlkTOut ∧ t ≠ virtioBlkTFlush) := by
  refine ⟨fun h => h t ht, fun h t' ht' => ?_⟩
  obtain rfl := Except.ok.inj (ht.symm.trans ht')
  exact h

variable (vm hf readOnly blockSize) in
/-- The copy goes on at every descriptor that does not end the chain. -/
theorem serveDesc_next_iff (x : ReqState F × Descriptor) :
    (∃ t, serveDesc vm hf readOnly blockSize x.1 x.2 = .next t) ↔ ¬Refused vm readOnly x := by
  rcases serveDesc_cases vm hf readOnly blockSize x.1 x.2 with ⟨e, ht, hd⟩ | ⟨ht, hd⟩ |
    ⟨ht, hro, hd⟩ | ⟨ht, hro, hd⟩ | ⟨ht, hd⟩ | ⟨t, ht, hin, hout, hflush, hd⟩
  · simp only [hd, Refused, ht, reduceCtorEq, exists_false, false_implies, implies_true,
      not_true_eq_false]
  · refine ⟨fun _ href => ?_, fun _ => ⟨_, hd⟩⟩
    rcases (refused_iff ht).mp href with ⟨h, -⟩ | ⟨h, -⟩
    · exact absurd h (by decide)
    · exact h rfl
  · have href : Refused vm readOnly x := (refused_iff ht).mpr (.inl ⟨rfl, hro⟩)
    simp only [hd, href, reduceCtorEq, exists_false, not_true_eq_false]
  · rw [refused_iff ht, hro]
    exact ⟨fun _ => by decide, fun _ => ⟨_, hro ▸ hd⟩⟩
  · refine ⟨fun _ href => ?_, fun _ => ⟨_, hd⟩⟩
    rcases (refused_iff ht).mp href with ⟨h, -⟩ | ⟨-, -, h⟩
    · exact absurd h (by decide)
    · exact h rfl
  · have href : Refused vm readOnly x := (refused_iff ht).mpr (.inr ⟨hin, hout, hflush⟩)
    simp only [hd, href, reduceCtorEq, exists_false, not_true_eq_false]

variable (vm hf readOnly blockSize) in
/-- The original goes on where in addition every call succeeds. -/
theorem requestStep_next_iff (x : ReqState F × Descriptor) :
    (∃ t, requestStep vm hf readOnly blockSize x.1 x.2 = .next t) ↔
      ¬Refused vm readOnly x ∧ GoesThrough vm hf blockSize x := by
  rw [← serveDesc_next_iff vm hf readOnly blockSize, requestStep, serveDesc, GoesThrough]
  rcases requestType vm x.1.mem x.2 with e | t
  · simp only [reduceCtorEq, exists_false, false_and]
  simp only [Except.ok.injEq]
  by_cases hin : t = virtioBlkTIn
  · have hout : t ≠ virtioBlkTOut := hin ▸ (by decide)
    have hflush : t ≠ virtioBlkTFlush := hin ▸ (by decide)
    rw [if_pos hin, if_pos hin, goOn_next_iff, handleRead_ok_iff]
    exact ⟨fun h => ⟨⟨_, rfl⟩, fun _ => h, fun h' => absurd h' hout, fun h' => absurd h' hflush⟩,
      fun h => h.2.1 hin⟩
  rw [if_neg hin, if_neg hin]
  by_cases hout : t = virtioBlkTOut
  · have hflush : t ≠ virtioBlkTFlush := hout ▸ (by decide)
    rw [if_pos hout, if_pos hout]
    cases readOnly with
    | true => simp only [if_true, reduceCtorEq, exists_false, false_and]
    | false =>
        simp only [Bool.false_eq_true, if_false, goOn_next_iff, handleWrite_ok_iff]
        exact ⟨fun h => ⟨⟨_, rfl⟩, fun h' => absurd h' hin, fun _ => h,
          fun h' => absurd h' hflush⟩, fun h => h.2.2.1 hout⟩
  rw [if_neg hout, if_neg hout]
  by_cases hflush : t = virtioBlkTFlush
  · rw [if_pos hflush, if_pos hflush, goOn_next_iff, handleFlush_ok_iff]
    exact ⟨fun h => ⟨⟨_, rfl⟩, fun h' => absurd h' hin, fun h' => absurd h' hout, fun _ => h⟩,
      fun h => h.2.2.2 hflush⟩
  · rw [if_neg hflush, if_neg hflush]
    simp only [reduceCtorEq, exists_false, false_and]

/-- A loop that never breaks with `OK` has this status when it comes to its end. -/
theorem chain_status_ok_iff {next : ReqState F → C → Option (Descriptor × C)}
    {body : ReqState F → Descriptor → Flow (ReqState F) (Except HypervisorError UInt8)}
    (hexit : ∀ s d t, body s d ≠ .exit t (.ok virtioBlkSOk)) {n : ℕ} {chain : C} {s : ReqState F} :
    (match forEach next body n chain s with
      | (s', none) => (s', .ok virtioBlkSOk)
      | (s', some r) => (s', r) : ReqState F × Except HypervisorError UInt8).2 =
        .ok virtioBlkSOk ↔ (forEach next body n chain s).2 = none := by
  rcases hloop : forEach next body n chain s with ⟨t, _ | r⟩
  · exact ⟨fun _ => rfl, fun _ => rfl⟩
  · simp only [reduceCtorEq, iff_false]
    rintro rfl
    obtain ⟨x, -, hx⟩ := exists_visit_of_forEach hloop
    exact absurd hx (hexit x.1 x.2 t)

/-- The copy breaks with other statuses only. -/
theorem serveDesc_ne_exit_ok (s : ReqState F) (d : Descriptor) (t : ReqState F) :
    serveDesc vm hf readOnly blockSize s d ≠ .exit t (.ok virtioBlkSOk) := by
  intro h
  rcases serveDesc_cases vm hf readOnly blockSize s d with ⟨e, -, hd⟩ | ⟨-, hd⟩ | ⟨-, -, hd⟩ |
    ⟨-, -, hd⟩ | ⟨-, hd⟩ | ⟨t, -, -, -, -, hd⟩
  · cases hd.symm.trans h
  · cases hd.symm.trans h
  · exact absurd (Except.ok.inj (Flow.exit.inj (hd.symm.trans h)).2) (by decide)
  · cases hd.symm.trans h
  · cases hd.symm.trans h
  · exact absurd (Except.ok.inj (Flow.exit.inj (hd.symm.trans h)).2) (by decide)

/-- A chain is completed with `OK` when no descriptor ends it early. -/
theorem serveChain_ok_iff (s : ReqState F) (chain : C) :
    (serveChain vm hf vq readOnly blockSize s chain).2 = .ok virtioBlkSOk ↔
      ∀ x ∈ chainRequests vm hf vq readOnly blockSize s chain, ¬Refused vm readOnly x := by
  have hnone : (forEach (fun t c => vq.next t.mem c) (serveDesc vm hf readOnly blockSize)
      (vq.ttl chain) chain s).2 = none ↔
      ∀ x ∈ chainRequests vm hf vq readOnly blockSize s chain,
        ∃ t, serveDesc vm hf readOnly blockSize x.1 x.2 = .next t :=
    forEach_none_iff fun _ _ _ h => h
  simp only [serveDesc_next_iff] at hnone
  exact (chain_status_ok_iff serveDesc_ne_exit_ok).trans hnone

variable (vm hf vq) in
/-- `process_request` returns `OK` when in addition every call it makes succeeds. -/
theorem processRequest_ok_iff (dev : VirtioBlock Q F) (chain : C) :
    (dev.processRequest vm hf vq chain).2 = .ok virtioBlkSOk ↔
      ∀ x ∈ chainRequests vm hf vq dev.readOnly dev.blockSize ⟨dev.config.mem, dev.disk⟩ chain,
        ¬Refused vm dev.readOnly x ∧ GoesThrough vm hf dev.blockSize x := by
  have hagrees := requestStep_agrees vm hf dev.readOnly dev.blockSize
  have hnone : (forEach (fun t c => vq.next t.mem c)
      (requestStep vm hf dev.readOnly dev.blockSize) (vq.ttl chain) chain
      ⟨dev.config.mem, dev.disk⟩).2 = none ↔
      ∀ x ∈ chainRequests vm hf vq dev.readOnly dev.blockSize ⟨dev.config.mem, dev.disk⟩ chain,
        ∃ t, requestStep vm hf dev.readOnly dev.blockSize x.1 x.2 = .next t :=
    forEach_none_iff fun s d => (hagrees s d).1
  simp only [requestStep_next_iff] at hnone
  refine (chain_status_ok_iff fun s d t h => ?_).trans hnone
  exact serveDesc_ne_exit_ok s d t ((hagrees s d).2 t _ h)

/-- The device in the state an iteration of the outer loop starts from. -/
def VirtioBlock.inState (dev : VirtioBlock Q F) (s : QueueState Q F) : VirtioBlock Q F :=
  { dev with config := { dev.config with mem := s.mem }, disk := s.disk }

/-- The used ring has got a chain with this status, exactly when the queue takes the chain back and
this is the status of the inner loop. -/
theorem completed_with_iff (ur : vq.UsedRing) (ac : vq.Acceptance) {s : QueueState Q F} {chain : C}
    {queue : Q} (hpop : vq.pop s.mem s.queue = .ok (some (chain, queue))) (status : UInt8) :
    ur.used (queueStep vm hf vq readOnly blockSize s).state.queue =
        ur.used s.queue ++ [(vq.headIndex chain, status.toUInt32)] ↔
      ac.accepts s.mem.layout queue (vq.headIndex chain) ∧
        (serveChain vm hf vq readOnly blockSize ⟨s.mem, s.disk⟩ chain).2 = .ok status := by
  rw [used_queueStep, List.append_cancel_left_eq, VirtioBlock.stepPlaced_eq_iff ac hpop]
  refine and_congr_right fun _ => ⟨?_, fun h => ⟨status, h, rfl⟩⟩
  rintro ⟨status', hserve, heq⟩
  rw [hserve, UInt8.toUInt32_inj.mp heq]

/-- **Requests that fail**: in a call of `process_queue`, no chain for which `process_request`
would return an error or a status other than `OK` is put in the used ring with `OK`, exactly when
each chain that is popped and that the queue takes back either ends early at one of its descriptors
or has no call fail on it. -/
theorem failed_requests_iff (ur : vq.UsedRing) (ac : vq.Acceptance) (fuel : ℕ)
    (dev : VirtioBlock Q F) (queueIdx : UInt32) :
    (∀ s ∈ VirtioBlock.heads vm hf vq fuel dev queueIdx, ∀ chain queue,
        vq.pop s.mem s.queue = .ok (some (chain, queue)) →
        ((dev.inState s).processRequest vm hf vq chain).2 ≠ .ok virtioBlkSOk →
        ur.used (queueStep vm hf vq dev.readOnly dev.blockSize s).state.queue ≠
          ur.used s.queue ++ [(vq.headIndex chain, virtioBlkSOk.toUInt32)]) ↔
      ∀ s ∈ VirtioBlock.heads vm hf vq fuel dev queueIdx, ∀ chain queue,
        vq.pop s.mem s.queue = .ok (some (chain, queue)) →
        ac.accepts s.mem.layout queue (vq.headIndex chain) →
        (∃ x ∈ chainRequests vm hf vq dev.readOnly dev.blockSize ⟨s.mem, s.disk⟩ chain,
          Refused vm dev.readOnly x) ∨
        ∀ x ∈ chainRequests vm hf vq dev.readOnly dev.blockSize ⟨s.mem, s.disk⟩ chain,
          GoesThrough vm hf dev.blockSize x := by
  refine forall₂_congr fun s _ => forall₃_congr fun chain queue hpop => ?_
  have horig := processRequest_ok_iff vm hf vq (dev.inState s) chain
  rw [ne_eq, ne_eq, completed_with_iff ur ac hpop, serveChain_ok_iff, horig]
  constructor
  · intro h haccepts
    by_cases href : ∃ x ∈ chainRequests vm hf vq dev.readOnly dev.blockSize ⟨s.mem, s.disk⟩ chain,
        Refused vm dev.readOnly x
    · exact .inl href
    · have hgo : ∀ x ∈ chainRequests vm hf vq dev.readOnly dev.blockSize ⟨s.mem, s.disk⟩ chain,
          ¬Refused vm dev.readOnly x ∧ GoesThrough vm hf dev.blockSize x := by
        by_contra hfail
        exact h hfail ⟨haccepts, fun x hx hr => href ⟨x, hx, hr⟩⟩
      exact .inr fun x hx => (hgo x hx).2
  · rintro h hfail ⟨haccepts, hok⟩
    rcases h haccepts with ⟨x, hx, hr⟩ | hgo
    · exact hok x hx hr
    · exact hfail fun x hx => ⟨hok x hx, hgo x hx⟩

/-- A device with an empty disk image and one chain. -/
def emptyDiskDevice (bytes : List UInt8) (descs : List Descriptor) :
    VirtioBlock ScriptedQueue DiskFile where
  config :=
    { mem := GuestMemory.page bytes
      guestMem := 0
      irq := 6
      queues := [⟨[(0, descs)], []⟩]
      interruptEvt := none }
  disk := ⟨[], 0⟩
  diskSize := 0
  blockSize := 512
  readOnly := false

/-- A read of one byte from an empty disk fails, and is completed with the status `OK`. -/
theorem read_past_end_completed_ok :
    ((emptyDiskDevice [] [⟨0, 17, 2⟩]).processRequest VmMemory.mmap (DiskFile.host [])
        ScriptedQueue.queue ⟨0, [⟨0, 17, 2⟩]⟩).2 =
      .error (.ioError "failed to fill whole buffer") ∧
    ((emptyDiskDevice [] [⟨0, 17, 2⟩]).processQueue VmMemory.mmap (DiskFile.host [])
        ScriptedQueue.queue 2 0).1.config.queues = [⟨[], [(0, virtioBlkSOk.toUInt32)]⟩] := by
  decide

/-! ### The status byte -/

/-- The status the loop gives a chain at the descriptor it meets last. -/
def verdict (vm : VmMemory) (readOnly : Bool) (m : GuestMemory) (d : Descriptor) : UInt8 :=
  match requestType vm m d with
  | .error _ => virtioBlkSOk
  | .ok t =>
      if t = virtioBlkTIn then virtioBlkSOk
      else if t = virtioBlkTOut then if readOnly then virtioBlkSIoerr else virtioBlkSOk
      else if t = virtioBlkTFlush then virtioBlkSOk
      else virtioBlkSUnsupp

/-- The status of a chain of which these descriptors are met. -/
def chainStatus (vm : VmMemory) (readOnly : Bool) (met : List (ReqState F × Descriptor)) : UInt8 :=
  match met.getLast? with
  | none => virtioBlkSOk
  | some x => verdict vm readOnly x.1.mem x.2

/-- The last descriptor of the chain, as guest memory has it, is a device-writable byte of guest
memory. -/
structure StatusChain (vq : VirtioQueue Q C) (m : GuestMemory) (chain : C) (st : Descriptor) :
    Prop where
  last : (vq.descriptors m chain).getLast? = some st
  len_eq : st.len = 1
  writable : st.isWriteOnly = true
  covered : m.layout.Covers st.addr.toNat 1

/-- What the disk has for a read request. -/
def inData (vm : VmMemory) (hf : HostFile F) (blockSize : UInt32) (x : ReqState F × Descriptor) :
    List UInt8 :=
  (hf.readExact (hf.seek x.1.disk (requestOffset vm blockSize x.1.mem x.2)).1
    (List.replicate (dataLen x.2) 0)).2.1

/-- The data of this read request gets to the address: there is guest memory from the beginning of
the data part up to it. -/
def ReadsUpTo (vm : VmMemory) (m : GuestMemory) (d : Descriptor) (a : ℕ) : Prop :=
  ReadsInto vm m d a ∧ m.layout.Covers (d.addr.toNat + 16) (a - (d.addr.toNat + 16) + 1)

instance (m : GuestMemory) (d : Descriptor) (a : ℕ) : Decidable (ReadsUpTo vm m d a) :=
  inferInstanceAs (Decidable ((_ ∧ _) ∧ _))

/-- The byte that the guest has left at an address, or the one that the disk has for the last of
these descriptors that is a read request and gets there. -/
def lastReadByte (vm : VmMemory) (hf : HostFile F) (blockSize : UInt32) (a : ℕ) (byte : UInt8)
    (met : List (ReqState F × Descriptor)) : UInt8 :=
  met.foldl (fun byte x =>
    if ReadsUpTo vm x.1.mem x.2 a then
      (inData vm hf blockSize x).getD (a - (x.2.addr.toNat + 16)) 0
    else byte) byte

/-- Going on is the status `OK`, and breaking is with the status of the descriptor. -/
theorem serveDesc_verdict (s : ReqState F) (d : Descriptor) :
    (∀ t, serveDesc vm hf readOnly blockSize s d = .next t →
        verdict vm readOnly s.mem d = virtioBlkSOk) ∧
      ∀ t status, serveDesc vm hf readOnly blockSize s d = .exit t (.ok status) →
        status = verdict vm readOnly s.mem d := by
  have hbreak : ∀ {t : ReqState F} {status status' : UInt8},
      (Flow.exit s (.ok status') : Flow _ (Except HypervisorError UInt8)) = .exit t (.ok status) →
        status = status' := by
    intro t status status' h
    exact (Except.ok.inj (Flow.exit.inj h).2).symm
  rw [serveDesc, verdict]
  rcases requestType vm s.mem d with e | t
  · simp
  simp only
  split
  · simp
  split
  · split
    · exact ⟨by simp, fun _ _ h => hbreak h⟩
    · simp
  split
  · simp
  · exact ⟨by simp, fun _ _ h => hbreak h⟩

/-- The status that the inner loop ends with is that of the descriptor it has met last. -/
theorem serveChain_status {s : ReqState F} {chain : C} {status : UInt8}
    (hserve : (serveChain vm hf vq readOnly blockSize s chain).2 = .ok status) :
    status = chainStatus vm readOnly (chainRequests vm hf vq readOnly blockSize s chain) := by
  rw [chainStatus]
  rcases hlast : (chainRequests vm hf vq readOnly blockSize s chain).getLast? with _ | x
  · rw [serveChain, forEach_of_visits_nil (List.getLast?_eq_none_iff.mp hlast)] at hserve
    exact (Except.ok.inj hserve).symm
  · have hbody := forEach_last hlast
    rw [serveChain] at hserve
    rcases hloop : forEach (fun t c => vq.next t.mem c) (serveDesc vm hf readOnly blockSize)
      (vq.ttl chain) chain s with ⟨t, _ | res⟩
    · rw [hloop] at hbody hserve
      exact (Except.ok.inj hserve).symm.trans ((serveDesc_verdict x.1 x.2).1 _ hbody).symm
    · rw [hloop] at hbody hserve
      obtain rfl : res = .ok status := hserve
      exact (serveDesc_verdict x.1 x.2).2 _ _ hbody

/-- **The status of a chain** is that of the descriptor met last, if all that are met begin in guest
memory. -/
theorem serveChain_eq_ok_iff (s : ReqState F) (chain : C) (status : UInt8) :
    (serveChain vm hf vq readOnly blockSize s chain).2 = .ok status ↔
      (∀ x ∈ chainRequests vm hf vq readOnly blockSize s chain,
        s.mem.layout.Covers x.2.addr.toNat 4) ∧
        chainStatus vm readOnly (chainRequests vm hf vq readOnly blockSize s chain) = status := by
  have hok := serveChain_isOk_iff vm hf vq readOnly blockSize s chain
  constructor
  · exact fun hserve => ⟨hok.mp ⟨status, hserve⟩, (serveChain_status hserve).symm⟩
  · rintro ⟨hcov, rfl⟩
    obtain ⟨status, hserve⟩ := hok.mpr hcov
    rw [hserve, serveChain_status hserve]

/-- A read request puts the byte that the disk has for it where its data gets to. -/
theorem bytes_serveIn {x : ReqState F × Descriptor} {a : ℕ} (hlo : x.2.addr.toNat + 16 ≤ a)
    (hhi : a < x.2.addr.toNat + x.2.len.toNat) :
    (serveIn vm hf blockSize x.1 x.2).mem.bytes a =
      if x.1.mem.layout.Covers (x.2.addr.toNat + 16) (a - (x.2.addr.toNat + 16) + 1) then
        (inData vm hf blockSize x).getD (a - (x.2.addr.toNat + 16)) 0
      else x.1.mem.bytes a := by
  obtain ⟨i, rfl⟩ : ∃ i, a = x.2.addr.toNat + 16 + i := ⟨_, (Nat.add_sub_cancel' hlo).symm⟩
  have hlen : (inData vm hf blockSize x).length = dataLen x.2 := by
    rw [inData, hf.readExact_length, List.length_replicate]
  have hi : i < (inData vm hf blockSize x).length := by
    rw [hlen, dataLen]
    omega
  rw [Nat.add_sub_cancel_left, List.getD_eq_getElem _ _ hi]
  by_cases hwrap : x.2.addr.toNat + 16 < 2 ^ 64
  · have hadd : checkedAdd x.2.addr 16 = some (x.2.addr.toNat + 16) := if_pos hwrap
    simp only [serveIn, hadd]
    exact vm.writeSlice_get _ _ _ i hi
  · -- no memory is backed at an address that has wrapped around
    have hadd : checkedAdd x.2.addr 16 = none := if_neg hwrap
    simp only [serveIn, hadd]
    exact (if_neg fun hcov => hwrap (hcov 0 (Nat.succ_pos i)).lt).symm

/-- A descriptor changes a byte of guest memory if it is a read request whose data gets there. -/
theorem bytes_serveDesc (x : ReqState F × Descriptor) (a : ℕ) :
    (serveDesc vm hf readOnly blockSize x.1 x.2).state.mem.bytes a =
      if ReadsUpTo vm x.1.mem x.2 a then
        (inData vm hf blockSize x).getD (a - (x.2.addr.toNat + 16)) 0
      else x.1.mem.bytes a := by
  by_cases hreads : ReadsInto vm x.1.mem x.2 a
  · have hserve : (serveDesc vm hf readOnly blockSize x.1 x.2).state.mem.bytes a =
        (serveIn vm hf blockSize x.1 x.2).mem.bytes a := by
      rw [serveDesc, hreads.1]
      rfl
    rw [hserve, bytes_serveIn hreads.2.1 hreads.2.2]
    exact if_congr (and_iff_right hreads).symm rfl rfl
  · rw [if_neg fun h => hreads h.1]
    by_contra hne
    exact hreads (serveDesc_writes hne).1

/-- The byte at an address after a chain. -/
theorem bytes_serveChain (s : ReqState F) (chain : C) (a : ℕ) :
    (serveChain vm hf vq readOnly blockSize s chain).1.mem.bytes a =
      lastReadByte vm hf blockSize a (s.mem.bytes a)
        (chainRequests vm hf vq readOnly blockSize s chain) := by
  rw [serveChain_fst]
  exact forEach_foldl (fun t : ReqState F => t.mem.bytes a) _ fun x _ => bytes_serveDesc x a

/-- **The status byte**: in a call of `process_queue`, the guest finds the status of each chain that
ends with a status descriptor in the byte of this descriptor when the chain is put in the used ring,
exactly when for each such chain that the queue takes back and whose descriptors begin in guest
memory the byte happens to be the status: the byte that the guest has left there, or that the disk
has for a read request of the chain that gets there. The loop never writes the status. -/
theorem status_in_guest_iff (ur : vq.UsedRing) (ac : vq.Acceptance) (fuel : ℕ)
    (dev : VirtioBlock Q F) (queueIdx : UInt32) :
    (∀ s ∈ VirtioBlock.heads vm hf vq fuel dev queueIdx, ∀ chain queue st status,
        vq.pop s.mem s.queue = .ok (some (chain, queue)) → StatusChain vq s.mem chain st →
        ur.used (queueStep vm hf vq dev.readOnly dev.blockSize s).state.queue =
          ur.used s.queue ++ [(vq.headIndex chain, status.toUInt32)] →
        (serveChain vm hf vq dev.readOnly dev.blockSize ⟨s.mem, s.disk⟩ chain).1.mem.bytes
          st.addr.toNat = status) ↔
      ∀ s ∈ VirtioBlock.heads vm hf vq fuel dev queueIdx, ∀ chain queue st,
        vq.pop s.mem s.queue = .ok (some (chain, queue)) → StatusChain vq s.mem chain st →
        ac.accepts s.mem.layout queue (vq.headIndex chain) →
        let met := chainRequests vm hf vq dev.readOnly dev.blockSize ⟨s.mem, s.disk⟩ chain
        (∀ x ∈ met, s.mem.layout.Covers x.2.addr.toNat 4) →
        lastReadByte vm hf dev.blockSize st.addr.toNat (s.mem.bytes st.addr.toNat) met =
          chainStatus vm dev.readOnly met := by
  refine forall₂_congr fun s _ => forall₃_congr fun chain queue st => ?_
  constructor
  · intro h hpop hst haccepts met hcov
    refine (bytes_serveChain ⟨s.mem, s.disk⟩ chain st.addr.toNat).symm.trans ?_
    exact h _ hpop hst ((completed_with_iff ur ac hpop _).mpr
      ⟨haccepts, (serveChain_eq_ok_iff _ chain _).mpr ⟨hcov, rfl⟩⟩)
  · intro h status hpop hst hcompleted
    obtain ⟨haccepts, hserve⟩ := (completed_with_iff ur ac hpop status).mp hcompleted
    obtain ⟨hcov, rfl⟩ := (serveChain_eq_ok_iff _ chain status).mp hserve
    rw [bytes_serveChain]
    exact h hpop hst haccepts hcov

/-- A flush with its status byte: the type of the status descriptor is not supported, and the byte
stays what it was. -/
theorem flush_status_not_written :
    let dev := (emptyDiskDevice ([4] ++ List.replicate 15 0 ++ [255])
      [⟨0, 16, 0⟩, ⟨16, 1, 2⟩]).processQueue VmMemory.mmap (DiskFile.host [])
        ScriptedQueue.queue 2 0
    dev.1.config.queues = [⟨[], [(0, virtioBlkSUnsupp.toUInt32)]⟩] ∧
      dev.1.config.mem.bytes 16 = 255 := by
  decide

/-! ### Offsets -/

/-- The descriptor is handled as a read, or as a write to a writable disk. -/
def IsTransfer (vm : VmMemory) (readOnly : Bool) (x : ReqState F × Descriptor) : Prop :=
  requestType vm x.1.mem x.2 = .ok virtioBlkTIn ∨
    (requestType vm x.1.mem x.2 = .ok virtioBlkTOut ∧ readOnly = false)

instance (x : ReqState F × Descriptor) : Decidable (IsTransfer vm readOnly x) :=
  inferInstanceAs (Decidable (_ ∨ _))

/-- The product has not wrapped around exactly when the sector is below `2 ^ 55`. -/
theorem requestOffset_eq_iff (m : GuestMemory) (d : Descriptor) :
    requestOffset vm 512 m d = (requestSector vm m d).toNat * 512 ↔
      (requestSector vm m d).toNat < 2 ^ 55 := by
  have hsize : (512 : UInt32).toUInt64.toNat = 512 := rfl
  rw [requestOffset, UInt64.toNat_mul, hsize]
  have hlt := (requestSector vm m d).toNat_lt
  omega

section Seeks

variable (sk : hf.Seeks)

theorem not_isTransfer {x : ReqState F × Descriptor} {t : UInt32}
    (ht : requestType vm x.1.mem x.2 = .ok t) (hin : t ≠ virtioBlkTIn)
    (hout : t = virtioBlkTOut → readOnly = true) : ¬IsTransfer vm readOnly x := by
  rintro (h | ⟨h, hro⟩)
  · exact hin (Except.ok.inj (ht.symm.trans h))
  · rw [hout (Except.ok.inj (ht.symm.trans h))] at hro
    cases hro

theorem disk_serveIn (s : ReqState F) (d : Descriptor) :
    (serveIn vm hf blockSize s d).disk =
      (hf.readExact (hf.seek s.disk (requestOffset vm blockSize s.mem d)).1
        (List.replicate (dataLen d) 0)).1 := by
  rw [serveIn]
  cases checkedAdd d.addr 16 <;> rfl

/-- What a descriptor hands to `seek`: its offset, when it is handled as a transfer. -/
theorem seeks_serveDesc (x : ReqState F × Descriptor) :
    sk.seeks (serveDesc vm hf readOnly blockSize x.1 x.2).state.disk = sk.seeks x.1.disk ++
      if IsTransfer vm readOnly x then [requestOffset vm blockSize x.1.mem x.2] else [] := by
  rcases serveDesc_cases vm hf readOnly blockSize x.1 x.2 with ⟨e, ht, hd⟩ | ⟨ht, hd⟩ |
    ⟨ht, hro, hd⟩ | ⟨ht, hro, hd⟩ | ⟨ht, hd⟩ | ⟨t, ht, hin, hout, hflush, hd⟩
  · have hnot : ¬IsTransfer vm readOnly x := by
      rintro (h | ⟨h, -⟩)
      · cases ht.symm.trans h
      · cases ht.symm.trans h
    rw [hd, if_neg hnot, List.append_nil, Flow.state_exit]
  · rw [hd, if_pos (.inl ht), Flow.state_next, disk_serveIn, sk.readExact_seeks, sk.seek_seeks]
  · rw [hd, if_neg (not_isTransfer ht (by decide) fun _ => hro), List.append_nil, Flow.state_exit]
  · rw [hd, if_pos (.inr ⟨ht, hro⟩), Flow.state_next, ← sk.seek_seeks]
    exact sk.writeAll_seeks _ _
  · rw [hd, if_neg (not_isTransfer ht (by decide) fun h => absurd h (by decide)), List.append_nil]
    exact sk.flush_seeks _
  · rw [hd, if_neg (not_isTransfer ht hin fun h => absurd h hout), List.append_nil,
      Flow.state_exit]

variable (vm vq) in
/-- The offsets along a call: those of the transfers it handles, in order. -/
theorem seeks_processQueue (fuel : ℕ) (dev : VirtioBlock Q F) (queueIdx : UInt32) :
    sk.seeks (dev.processQueue vm hf vq fuel queueIdx).1.disk = sk.seeks dev.disk ++
      (VirtioBlock.requests vm hf vq fuel dev queueIdx).flatMap fun x =>
        if IsTransfer vm dev.readOnly x then [requestOffset vm dev.blockSize x.1.mem x.2]
        else [] := by
  have hfold := VirtioBlock.processQueue_disk_foldl vm vq sk.seeks (fun l x => l ++
    if IsTransfer vm dev.readOnly x then [requestOffset vm dev.blockSize x.1.mem x.2] else [])
    fuel dev queueIdx (seeks_serveDesc sk)
  rw [hfold, List.foldl_append_eq_append, List.flatMap_def]

theorem seeks_handleRead (s : ReqState F) (d : Descriptor) :
    sk.seeks (handleRead vm hf blockSize s d).1.disk = sk.seeks s.disk ++
      if (vm.readSlice s.mem d.addr.toNat (List.replicate 8 0)).2 = .ok () then
        [requestOffset vm blockSize s.mem d] else [] := by
  rcases handleRead_cases vm hf blockSize s d with ⟨hsector, e, h⟩ |
    ⟨hsector, -, e, t, h, hdisk | hdisk⟩ | ⟨hgo, h⟩
  · rw [h, if_neg hsector, List.append_nil]
  · rw [h, if_pos hsector, hdisk, sk.seek_seeks]
  · rw [h, if_pos hsector, hdisk, sk.readExact_seeks, sk.seek_seeks]
  · rw [h, if_pos hgo.1, disk_serveIn, sk.readExact_seeks, sk.seek_seeks]

theorem seeks_handleWrite (s : ReqState F) (d : Descriptor) :
    sk.seeks (handleWrite vm hf blockSize s d).1.disk = sk.seeks s.disk ++
      if (vm.readSlice s.mem d.addr.toNat (List.replicate 8 0)).2 = .ok () then
        [requestOffset vm blockSize s.mem d] else [] := by
  rcases handleWrite_cases vm hf blockSize s d with ⟨hsector, e, h⟩ |
    ⟨hsector, -, e, t, h, hdisk | hdisk⟩ | ⟨hgo, h⟩
  · rw [h, if_neg hsector, List.append_nil]
  · rw [h, if_pos hsector, hdisk, sk.seek_seeks]
  · rw [h, if_pos hsector, hdisk, sk.writeAll_seeks, sk.seek_seeks]
  · rw [h, if_pos hgo.1, serveOut, sk.writeAll_seeks, sk.seek_seeks]

/-- A call that hands `seek` at most one offset hands it the sector's, exactly when that one does
not wrap around. -/
theorem seek_iff {before after : List ℕ} {p : Prop} [Decidable p] {m : GuestMemory}
    {d : Descriptor} (h : after = before ++ if p then [requestOffset vm 512 m d] else []) :
    (∀ n, after = before ++ [n] → n = (requestSector vm m d).toNat * 512) ↔
      (p → (requestSector vm m d).toNat < 2 ^ 55) := by
  by_cases hp : p
  · rw [if_pos hp] at h
    rw [h, forall_prop_of_true hp, ← requestOffset_eq_iff]
    simp only [List.append_cancel_left_eq, List.cons.injEq, and_true, forall_eq']
  · rw [if_neg hp, List.append_nil] at h
    refine ⟨fun _ h' => absurd h' hp, fun _ n hn => ?_⟩
    have hlen := congrArg List.length (h.symm.trans hn)
    rw [List.length_append, List.length_singleton] at hlen
    omega

/-- **Offsets of requests**: the offsets that a call of `process_queue` hands to `seek` are the
sectors of the transfers it handles times 512, exactly when all of these are below `2 ^ 55`; and so
it is for `handle_read` and `handle_write`. A larger sector wraps around to an offset at the
beginning of the disk, and is not refused. -/
theorem seek_offsets_iff (fuel : ℕ) (dev : VirtioBlock Q F) (queueIdx : UInt32)
    (hsize : dev.blockSize = 512) :
    (sk.seeks (dev.processQueue vm hf vq fuel queueIdx).1.disk = sk.seeks dev.disk ++
        (VirtioBlock.requests vm hf vq fuel dev queueIdx).flatMap (fun x =>
          if IsTransfer vm dev.readOnly x then [(requestSector vm x.1.mem x.2).toNat * 512]
          else []) ↔
      ∀ x ∈ VirtioBlock.requests vm hf vq fuel dev queueIdx, IsTransfer vm dev.readOnly x →
        (requestSector vm x.1.mem x.2).toNat < 2 ^ 55) ∧
    ∀ s d,
      ((∀ n, sk.seeks (handleRead vm hf dev.blockSize s d).1.disk = sk.seeks s.disk ++ [n] →
          n = (requestSector vm s.mem d).toNat * 512) ↔
        ((vm.readSlice s.mem d.addr.toNat (List.replicate 8 0)).2 = .ok () →
          (requestSector vm s.mem d).toNat < 2 ^ 55)) ∧
      ((∀ n, sk.seeks (handleWrite vm hf dev.blockSize s d).1.disk = sk.seeks s.disk ++ [n] →
          n = (requestSector vm s.mem d).toNat * 512) ↔
        ((vm.readSlice s.mem d.addr.toNat (List.replicate 8 0)).2 = .ok () →
          (requestSector vm s.mem d).toNat < 2 ^ 55)) := by
  rw [hsize]
  refine ⟨?_, fun s d => ⟨seek_iff (seeks_handleRead sk s d), seek_iff (seeks_handleWrite sk s d)⟩⟩
  rw [seeks_processQueue, List.append_cancel_left_eq, hsize, flatMap_eq_iff_of_length_le]
  · refine forall₂_congr fun x _ => ?_
    by_cases hx : IsTransfer vm dev.readOnly x
    · rw [if_pos hx, if_pos hx, forall_prop_of_true hx, List.cons.injEq, and_iff_left rfl,
        requestOffset_eq_iff]
    · rw [if_neg hx, if_neg hx]
      exact ⟨fun _ h => absurd h hx, fun _ => rfl⟩
  · intro x _
    split
    · exact Nat.le_refl 1
    · exact Nat.le_refl 0

end Seeks

/-- A device with a recorded disk image of one byte, and a chain with one transfer. -/
def recordedDevice (bytes : List UInt8) : VirtioBlock ScriptedQueue (DiskFile × List ℕ) where
  config :=
    { mem := GuestMemory.page bytes
      guestMem := 0
      irq := 6
      queues := [⟨[(0, [⟨0, 17, 2⟩])], []⟩]
      interruptEvt := none }
  disk := (⟨[7], 0⟩, [])
  diskSize := 1
  blockSize := 512
  readOnly := false

/-- A read of sector `2 ^ 55` reads the first sector of the disk. -/
theorem sector_wraps_to_zero :
    (requestSector VmMemory.mmap (GuestMemory.page [0, 0, 0, 0, 0, 0, 128]) ⟨0, 17, 2⟩).toNat =
        2 ^ 55 ∧
      ((recordedDevice [0, 0, 0, 0, 0, 0, 128]).processQueue VmMemory.mmap
        (DiskFile.host []).recording ScriptedQueue.queue 2 0).1.disk.2 = [0] ∧
      ((recordedDevice [0, 0, 0, 0, 0, 0, 128]).processQueue VmMemory.mmap
        (DiskFile.host []).recording ScriptedQueue.queue 2 0).1.config.mem.bytes 16 = 7 := by
  decide

/-- A read of sector `2 ^ 32`, behind the end of the disk. -/
theorem seek_offsets_large :
    ((recordedDevice [0, 0, 0, 0, 1]).processQueue VmMemory.mmap (DiskFile.host []).recording
      ScriptedQueue.queue 2 0).1.disk.2 = [2 ^ 32 * 512] := by
  have hrequests : VirtioBlock.requests VmMemory.mmap (DiskFile.host []).recording
      ScriptedQueue.queue 2 (recordedDevice [0, 0, 0, 0, 1]) 0 =
    [(⟨GuestMemory.page [0, 0, 0, 0, 1], (⟨[7], 0⟩, [])⟩, ⟨0, 17, 2⟩)] := rfl
  have hsmall : ∀ x ∈ VirtioBlock.requests VmMemory.mmap (DiskFile.host []).recording
      ScriptedQueue.queue 2 (recordedDevice [0, 0, 0, 0, 1]) 0, IsTransfer VmMemory.mmap false x →
      (requestSector VmMemory.mmap x.1.mem x.2).toNat < 2 ^ 55 := by
    rw [hrequests]
    exact List.forall_mem_singleton.mpr fun _ => by decide
  refine ((seek_offsets_iff (DiskFile.host []).recording_seeks 2 (recordedDevice [0, 0, 0, 0, 1]) 0
    rfl).1.mpr hsmall).trans ?_
  rw [hrequests]
  decide

end MoVm
