import MoVm.FsMmio
import MoVm.Lib.Loop
import MoVm.Virtqueue

/-!
# The File System Backend

`handle_event` of `virtio/fs.rs`: on an event of its queue the backend pops one chain after the
other, reads the buffer of the first descriptor as a 9P message, looks at the message's type and
places the chain in the used ring; in the end it signals the interrupt.

The type is the fifth byte of a message, while only messages shorter than four bytes are turned
away before it is looked at. A chain without a first descriptor, and one whose first buffer cannot
be read, are skipped after they have been popped. `messageStep_cases` says once what an iteration
can do; the rest of the module reads it.

## Main results

* `handleEvent_panics_iff`: the backend panics exactly on a message of four bytes.
* `messages_completed_iff`: every chain that is popped is placed in the used ring, in order,
  exactly when every one of them has a first buffer that can be read.
-/

open Lib

namespace MoVm

variable {Q C : Type} (vm : VmMemory) (vq : VirtioQueue Q C)

/-! ### The model -/

/-- `process_9p`: no message type is supported. Indexing panics past the end of the message. -/
def process9p (descChain : List UInt8) : Outcome HypervisorError Unit :=
  if descChain.length < 4 then .err (.ioError "Invalid message")
  else
    match descChain[4]? with
    | none => .panic
    | some _msgType => .err (.ioError "Operation not supported")

/-- What the loop over the queue changes. -/
structure MessageState (Q : Type) where
  mem : GuestMemory
  queue : Q

/-- The body of the loop. The results of `process_9p` and `add_used` are discarded. -/
def messageStep (s : MessageState Q) : Flow (MessageState Q) (Outcome String Unit) :=
  match vq.pop s.mem s.queue with
  | .error e => .exit s (.err ("Queue iter error: " ++ e))
  | .ok none => .exit s (.ok ())
  | .ok (some (descChain, queue)) =>
      match vq.next s.mem descChain with
      | none => .next { s with queue }
      | some (desc, _) =>
          match vm.readSlice s.mem desc.addr.toNat (List.replicate desc.len.toNat 0) with
          | (_, .error _) => .next { s with queue }
          | (data, .ok ()) =>
              match process9p data with
              | .panic => .exit { s with queue } .panic
              | _ =>
                  let (mem, queue, _) :=
                    vq.addUsed s.mem queue (vq.headIndex descChain) desc.len
                  .next { mem, queue }

/-- `EventSet::IN`. -/
def eventSetIn : UInt32 := 1

/-- The end of `handle_event`. -/
def VirtioFs.signalIrq (dev : VirtioFs) : VirtioFs × Outcome String Unit :=
  match dev.irqTrigger.write 1 with
  | (irqTrigger, .ok ()) => ({ dev with irqTrigger }, .ok ())
  | (irqTrigger, .error e) => ({ dev with irqTrigger }, .err ("Failed to signal irq: " ++ e))

/-- `handle_event`, with at most `fuel` iterations of the loop: the device and the queues
afterwards, and the result if the call has returned by then. -/
def VirtioFs.handleEvent (dev : VirtioFs) (deviceEvent : UInt16) (evset : UInt32)
    (vrings : List Q) (fuel : ℕ) : (VirtioFs × List Q) × Option (Outcome String Unit) :=
  if deviceEvent ≠ 0 then ((dev, vrings), some (.err "Unexpected device event"))
  else if evset &&& eventSetIn ≠ eventSetIn then ((dev, vrings), some (.ok ()))
  else
    match vrings with
    | [] => ((dev.signalIrq.1, []), some dev.signalIrq.2)
    | queue :: rest =>
        match loop (messageStep vm vq) fuel ⟨dev.mem, queue⟩ with
        | (s, some (.ok ())) =>
            let dev := { dev with mem := s.mem }
            ((dev.signalIrq.1, s.queue :: rest), some dev.signalIrq.2)
        | (s, r) => (({ dev with mem := s.mem }, s.queue :: rest), r)

/-! ### One message -/

/-- A message is read past its end exactly when it has four bytes. -/
theorem process9p_panic_iff (data : List UInt8) : process9p data = .panic ↔ data.length = 4 := by
  rw [process9p]
  by_cases hshort : data.length < 4
  · rw [if_pos hshort]
    simp only [reduceCtorEq, false_iff]
    omega
  · rw [if_neg hshort]
    rcases hget : data[4]? with _ | msgType
    · have hlen := List.getElem?_eq_none_iff.mp hget
      exact ⟨fun _ => by omega, fun _ => rfl⟩
    · have hlen := (List.getElem?_eq_some_iff.mp hget).1
      simp only [reduceCtorEq, false_iff]
      omega

/-- The descriptor's buffer can be read. -/
def Descriptor.Readable (d : Descriptor) (m : GuestMemory) : Prop :=
  (vm.readSlice m d.addr.toNat (List.replicate d.len.toNat 0)).2 = .ok ()

instance (d : Descriptor) (m : GuestMemory) : Decidable (d.Readable vm m) :=
  inferInstanceAs (Decidable (_ = _))

theorem readable_four_iff {d : Descriptor} (m : GuestMemory) (h : d.len = 4) :
    d.Readable vm m ↔ m.layout.Covers d.addr.toNat 4 := by
  rw [Descriptor.Readable, h, vm.readSlice_ok_iff _ _ _ (by decide)]
  rfl

/-- **Inversion of the loop body**: it leaves when the queue cannot be read or is empty. A popped
chain is skipped when it has no first descriptor or this cannot be read; a message of four bytes
panics, and any other one is completed. -/
theorem messageStep_cases (s : MessageState Q) :
    (∃ e, vq.pop s.mem s.queue = .error e ∧
      messageStep vm vq s = .exit s (.err ("Queue iter error: " ++ e))) ∨
    (vq.pop s.mem s.queue = .ok none ∧ messageStep vm vq s = .exit s (.ok ())) ∨
    ∃ chain q, vq.pop s.mem s.queue = .ok (some (chain, q)) ∧
      ((vq.next s.mem chain = none ∧ messageStep vm vq s = .next { s with queue := q }) ∨
      ∃ d c, vq.next s.mem chain = some (d, c) ∧
        ((¬d.Readable vm s.mem ∧ messageStep vm vq s = .next { s with queue := q }) ∨
        (d.Readable vm s.mem ∧ d.len = 4 ∧
          messageStep vm vq s = .exit { s with queue := q } .panic) ∨
        (d.Readable vm s.mem ∧ d.len ≠ 4 ∧ messageStep vm vq s = .next
          ⟨(vq.addUsed s.mem q (vq.headIndex chain) d.len).1,
            (vq.addUsed s.mem q (vq.headIndex chain) d.len).2.1⟩))) := by
  rcases hpop : vq.pop s.mem s.queue with e | _ | ⟨chain, q⟩
  · exact .inl ⟨e, rfl, by simp only [messageStep, hpop]⟩
  · exact .inr (.inl ⟨rfl, by simp only [messageStep, hpop]⟩)
  refine .inr (.inr ⟨chain, q, rfl, ?_⟩)
  rcases hnext : vq.next s.mem chain with _ | ⟨d, c⟩
  · exact .inl ⟨rfl, by simp only [messageStep, hpop, hnext]⟩
  refine .inr ⟨d, c, rfl, ?_⟩
  have hlen := vm.readSlice_length s.mem d.addr.toNat (List.replicate d.len.toNat 0)
  rw [List.length_replicate] at hlen
  rcases hread : vm.readSlice s.mem d.addr.toNat (List.replicate d.len.toNat 0) with
    ⟨data, e | ⟨⟩⟩
  · refine .inl ⟨fun h => ?_, by simp only [messageStep, hpop, hnext, hread]⟩
    rw [Descriptor.Readable, hread] at h
    cases h
  have hok : d.Readable vm s.mem := by rw [Descriptor.Readable, hread]
  rw [hread] at hlen
  refine .inr ?_
  by_cases hfour : d.len = 4
  · have hpanic : process9p data = .panic := by
      rw [process9p_panic_iff, hlen, hfour]
      rfl
    exact .inl ⟨hok, hfour, by simp only [messageStep, hpop, hnext, hread, hpanic]⟩
  · refine .inr ⟨hok, hfour, ?_⟩
    have hpanic : process9p data ≠ .panic := by
      rw [ne_eq, process9p_panic_iff, hlen]
      exact fun h => hfour (UInt32.toNat_inj.mp h)
    simp only [messageStep, hpop, hnext, hread]

variable {vm vq}

/-! ### Panics -/

/-- A chain is popped at this loop head whose first descriptor is a buffer of four bytes in guest
memory. -/
def PopsFourBytes (vq : VirtioQueue Q C) (s : MessageState Q) : Prop :=
  ∃ chain q d c, vq.pop s.mem s.queue = .ok (some (chain, q)) ∧
    vq.next s.mem chain = some (d, c) ∧ d.len = 4 ∧ s.mem.layout.Covers d.addr.toNat 4

/-- The loop ends in a panic when it pops such a chain. -/
theorem loop_panic_iff {s₀ : MessageState Q} {fuel : ℕ} :
    (loop (messageStep vm vq) fuel s₀).2 = some .panic ↔
      ∃ s ∈ loopHeads (messageStep vm vq) fuel s₀, PopsFourBytes vq s := by
  constructor
  · intro hpanic
    obtain ⟨s, hs, hstep⟩ := exists_mem_of_loop (Prod.ext rfl hpanic)
    refine ⟨s, hs, ?_⟩
    rcases messageStep_cases vm vq s with ⟨e, -, h⟩ | ⟨-, h⟩ |
      ⟨chain, q, hpop, ⟨-, h⟩ | ⟨d, c, hnext, ⟨-, h⟩ | ⟨hread, hfour, -⟩ | ⟨-, -, h⟩⟩⟩
    · cases h.symm.trans hstep
    · cases h.symm.trans hstep
    · cases h.symm.trans hstep
    · cases h.symm.trans hstep
    · exact ⟨chain, q, d, c, hpop, hnext, hfour, (readable_four_iff vm s.mem hfour).mp hread⟩
    · cases h.symm.trans hstep
  · rintro ⟨s, hs, chain, q, d, c, hpop, hnext, hfour, hcovers⟩
    have hread := (readable_four_iff vm s.mem hfour).mpr hcovers
    rcases messageStep_cases vm vq s with ⟨e, h, -⟩ | ⟨h, -⟩ | ⟨chain', q', hpop', hcases⟩
    · cases h.symm.trans hpop
    · cases h.symm.trans hpop
    obtain ⟨rfl, rfl⟩ := Prod.mk.inj (Option.some.inj (Except.ok.inj (hpop'.symm.trans hpop)))
    rcases hcases with ⟨h, -⟩ | ⟨d', c', hnext', hcases⟩
    · cases h.symm.trans hnext
    obtain ⟨rfl, rfl⟩ := Prod.mk.inj (Option.some.inj (hnext'.symm.trans hnext))
    rcases hcases with ⟨h, -⟩ | ⟨-, -, hstep⟩ | ⟨-, h, -⟩
    · exact absurd hread h
    · exact congrArg Prod.snd (loop_eq_of_mem hs hstep)
    · exact absurd hfour h

theorem VirtioFs.signalIrq_ne_panic (dev : VirtioFs) : dev.signalIrq.2 ≠ .panic := by
  rw [VirtioFs.signalIrq]
  split <;> simp only [ne_eq, reduceCtorEq, not_false_eq_true]

/-- What a call on an event of the queue leaves behind: the queue is that of the loop, a panic
comes from the loop, and the interrupt is signalled only after the loop has come to its end. -/
theorem handleEvent_cons (vm : VmMemory) (vq : VirtioQueue Q C) (dev : VirtioFs) {evset : UInt32}
    (hin : evset &&& eventSetIn = eventSetIn) (queue : Q) (rest : List Q) (fuel : ℕ) :
    (dev.handleEvent vm vq 0 evset (queue :: rest) fuel).1.2 =
        (loop (messageStep vm vq) fuel ⟨dev.mem, queue⟩).1.queue :: rest ∧
      ((dev.handleEvent vm vq 0 evset (queue :: rest) fuel).2 = some .panic ↔
        (loop (messageStep vm vq) fuel ⟨dev.mem, queue⟩).2 = some .panic) ∧
      ((dev.handleEvent vm vq 0 evset (queue :: rest) fuel).1.1.irqTrigger ≠ dev.irqTrigger →
        (loop (messageStep vm vq) fuel ⟨dev.mem, queue⟩).2 = some (.ok ())) := by
  rw [VirtioFs.handleEvent, if_neg (fun h => h rfl), if_neg (fun h => h hin)]
  rcases loop (messageStep vm vq) fuel ⟨dev.mem, queue⟩ with ⟨s, _ | (_ | e | _)⟩
  · exact ⟨rfl, Iff.rfl, fun h => absurd rfl h⟩
  · refine ⟨rfl, ⟨fun h => ?_, fun h => ?_⟩, fun _ => rfl⟩
    · exact absurd (Option.some.inj h) (VirtioFs.signalIrq_ne_panic _)
    · cases h
  · exact ⟨rfl, Iff.rfl, fun h => absurd rfl h⟩
  · exact ⟨rfl, Iff.rfl, fun h => absurd rfl h⟩

/-- **Messages that panic the backend**: `handle_event` ends in a panic exactly when it pops a
chain whose first descriptor is a buffer of four bytes in guest memory, on an event of its queue.
Every other message is rejected with an error. -/
theorem handleEvent_panics_iff (dev : VirtioFs) (deviceEvent : UInt16) (evset : UInt32)
    (vrings : List Q) (fuel : ℕ) :
    (dev.handleEvent vm vq deviceEvent evset vrings fuel).2 ≠ some .panic ↔
      (deviceEvent = 0 → evset &&& eventSetIn = eventSetIn → ∀ queue ∈ vrings.head?,
        ∀ s ∈ loopHeads (messageStep vm vq) fuel ⟨dev.mem, queue⟩, ¬PopsFourBytes vq s) := by
  obtain rfl | hevent := eq_or_ne deviceEvent 0
  · by_cases hin : evset &&& eventSetIn = eventSetIn
    · cases vrings with
      | nil =>
          rw [VirtioFs.handleEvent, if_neg (fun h => h rfl), if_neg (fun h => h hin)]
          simp only [List.head?_nil, Option.not_mem_none, false_implies, implies_true, iff_true]
          intro h
          exact dev.signalIrq_ne_panic (Option.some.inj h)
      | cons queue rest =>
          obtain ⟨-, hpanic, -⟩ := handleEvent_cons vm vq dev hin queue rest fuel
          rw [ne_eq, hpanic, loop_panic_iff, List.head?_cons]
          simp only [Option.mem_some_iff, forall_eq', not_exists, not_and, true_implies, hin]
    · rw [VirtioFs.handleEvent.eq_def, if_neg (fun h => h rfl), if_pos hin]
      exact ⟨fun _ _ h => absurd h hin, fun _ h => by cases h⟩
  · rw [VirtioFs.handleEvent.eq_def, if_pos hevent]
    exact ⟨fun _ h => absurd h hevent, fun _ h => by cases h⟩

/-- The backend of a shared directory with this memory. -/
def VirtioFs.sample (mem : GuestMemory) : VirtioFs where
  state := .fourBytes []
  mem := mem
  queueEvts := (⟨0⟩, ⟨0⟩)
  irqTrigger := ⟨0⟩
  features := 0
  ackedFeatures := 0

/-- A message of four bytes, which the check of its length lets pass. -/
theorem handleEvent_fourBytes :
    ((VirtioFs.sample (.page [4, 0, 0, 0])).handleEvent VmMemory.mmap ScriptedQueue.queue 0
      eventSetIn [⟨[(3, [⟨0, 4, 0⟩])], []⟩] 2).2 = some .panic := by
  decide

/-! ### Completions -/

/-- The entry that an iteration places in the used ring. -/
def messagePlaced (vm : VmMemory) (vq : VirtioQueue Q C) (s : MessageState Q) :
    List (UInt16 × UInt32) :=
  match vq.pop s.mem s.queue with
  | .ok (some (chain, q)) =>
      match vq.next s.mem chain with
      | some (d, _) =>
          if d.Readable vm s.mem ∧ d.len ≠ 4 then vq.placed s.mem q (vq.headIndex chain) d.len
          else []
      | none => []
  | _ => []

/-- Every chain popped at this loop head has a first buffer that can be read and is not a message
of four bytes, and the used ring takes the chain. -/
def Answered (vm : VmMemory) (vq : VirtioQueue Q C) (s : MessageState Q) : Prop :=
  ∀ chain q, vq.pop s.mem s.queue = .ok (some (chain, q)) →
    ∃ d c, vq.next s.mem chain = some (d, c) ∧ d.Readable vm s.mem ∧ d.len ≠ 4 ∧
      (vq.addUsed s.mem q (vq.headIndex chain) d.len).2.2 = .ok ()

theorem used_messageStep (ur : vq.UsedRing) (s : MessageState Q) :
    ur.used (messageStep vm vq s).state.queue = ur.used s.queue ++ messagePlaced vm vq s := by
  rw [messagePlaced]
  rcases messageStep_cases vm vq s with ⟨e, hpop, hstep⟩ | ⟨hpop, hstep⟩ |
    ⟨chain, q, hpop, ⟨hnext, hstep⟩ | ⟨d, c, hnext, ⟨hread, hstep⟩ | ⟨-, hfour, hstep⟩ |
      ⟨hread, hfour, hstep⟩⟩⟩
  · rw [hstep, hpop]
    exact (List.append_nil _).symm
  · rw [hstep, hpop]
    exact (List.append_nil _).symm
  · simp only [hstep, hpop, hnext, Flow.state_next, List.append_nil]
    exact ur.pop_used hpop
  · simp only [hstep, hpop, hnext, Flow.state_next]
    rw [if_neg (fun h => hread h.1), List.append_nil, ur.pop_used hpop]
  · simp only [hstep, hpop, hnext, Flow.state_exit]
    rw [if_neg (fun h => h.2 hfour), List.append_nil, ur.pop_used hpop]
  · simp only [hstep, hpop, hnext, Flow.state_next]
    rw [if_pos ⟨hread, hfour⟩, ur.used_addUsed, ur.pop_used hpop]

/-- An iteration places the chain it pops exactly when it answers it. -/
theorem messagePlaced_eq_popped_iff (s : MessageState Q) :
    (messagePlaced vm vq s).map Prod.fst = vq.popped s.mem s.queue ↔ Answered vm vq s := by
  rw [messagePlaced, VirtioQueue.popped, Answered]
  rcases vq.pop s.mem s.queue with e | _ | ⟨chain, q⟩
  · simp only [List.map_nil, reduceCtorEq, false_implies, implies_true]
  · simp only [List.map_nil, Except.ok.injEq, reduceCtorEq, false_implies, implies_true]
  simp only [Except.ok.injEq, Option.some.injEq, Prod.mk.injEq]
  constructor
  · rintro hplaced _ _ ⟨rfl, rfl⟩
    rcases hnext : vq.next s.mem chain with _ | ⟨d, c⟩
    · rw [hnext] at hplaced
      cases hplaced
    · simp only [hnext] at hplaced
      split at hplaced
      · next h => exact ⟨d, c, rfl, h.1, h.2, (VirtioQueue.map_placed_eq_iff _ _ _ _).mp hplaced⟩
      · cases hplaced
  · intro hall
    obtain ⟨d, c, hnext, hread, hfour, hadd⟩ := hall chain q ⟨rfl, rfl⟩
    simp only [hnext]
    rw [if_pos ⟨hread, hfour⟩, VirtioQueue.map_placed_eq_iff, hadd]

theorem length_messagePlaced_le (s : MessageState Q) :
    ((messagePlaced vm vq s).map Prod.fst).length ≤ (vq.popped s.mem s.queue).length := by
  rw [List.length_map, messagePlaced, VirtioQueue.popped]
  rcases vq.pop s.mem s.queue with e | _ | ⟨chain, q⟩
  · exact Nat.le_refl 0
  · exact Nat.le_refl 0
  simp only [List.length_singleton]
  split
  · split
    · rw [VirtioQueue.placed]
      split
      · exact Nat.le_refl 1
      · exact Nat.zero_le 1
    · exact Nat.zero_le 1
  · exact Nat.zero_le 1

/-- **Chains the backend completes**: a call of `handle_event` for its queue places every chain it
pops in the used ring, once and in order, before it signals the interrupt, exactly when every one
of them is answered. The interrupt is signalled after the loop, when the queues do not change any
more. -/
theorem messages_completed_iff (ur : vq.UsedRing) (dev : VirtioFs) {evset : UInt32}
    (hin : evset &&& eventSetIn = eventSetIn) (queue : Q) (rest : List Q) (fuel : ℕ) :
    ((dev.handleEvent vm vq 0 evset (queue :: rest) fuel).1.2.map
          (fun q => (ur.used q).map Prod.fst) =
        ((ur.used queue).map Prod.fst ++ (loopHeads (messageStep vm vq) fuel
          ⟨dev.mem, queue⟩).flatMap fun s => vq.popped s.mem s.queue) ::
          rest.map (fun q => (ur.used q).map Prod.fst) ∧
      ((dev.handleEvent vm vq 0 evset (queue :: rest) fuel).1.1.irqTrigger ≠ dev.irqTrigger →
        (loop (messageStep vm vq) fuel ⟨dev.mem, queue⟩).2 = some (.ok ()))) ↔
      ∀ s ∈ loopHeads (messageStep vm vq) fuel ⟨dev.mem, queue⟩, Answered vm vq s := by
  obtain ⟨hqueues, -, hsignal⟩ := handleEvent_cons vm vq dev hin queue rest fuel
  have hlog := loop_log (messageStep vm vq) (fun s => ur.used s.queue) (messagePlaced vm vq)
    (n := fuel) (s := ⟨dev.mem, queue⟩) fun s _ => used_messageStep ur s
  rw [and_iff_left hsignal, hqueues, List.map_cons, List.cons.injEq, and_iff_left rfl, hlog,
    List.map_append, List.append_cancel_left_eq, List.map_flatMap,
    flatMap_eq_iff_of_length_le fun s _ => length_messagePlaced_le s]
  exact forall₂_congr fun s _ => messagePlaced_eq_popped_iff s

/-- A chain of no descriptors is popped and never placed, and the interrupt is signalled. -/
theorem empty_chain_lost :
    let queue : ScriptedQueue := ⟨[(3, [])], []⟩
    let (dev, queues) := ((VirtioFs.sample (.page [])).handleEvent VmMemory.mmap
      ScriptedQueue.queue 0 eventSetIn [queue] 2).1
    ScriptedQueue.queue.popped (.page []) queue = [3] ∧ queues = [⟨[], []⟩] ∧
      dev.irqTrigger = ⟨1⟩ := by
  decide

theorem heads_fiveBytes :
    loopHeads (messageStep VmMemory.mmap ScriptedQueue.queue) 2
        ⟨.page [5, 0, 0, 0, 100], ⟨[(3, [⟨0, 5, 0⟩])], []⟩⟩ =
      [⟨.page [5, 0, 0, 0, 100], ⟨[(3, [⟨0, 5, 0⟩])], []⟩⟩,
        ⟨.page [5, 0, 0, 0, 100], ⟨[], [(3, 5)]⟩⟩] := rfl

/-- A message of five bytes is placed in the used ring. -/
theorem messages_completed_fiveBytes :
    ((VirtioFs.sample (.page [5, 0, 0, 0, 100])).handleEvent VmMemory.mmap ScriptedQueue.queue 0
      eventSetIn [⟨[(3, [⟨0, 5, 0⟩])], []⟩] 2).1.2.map (fun q => q.used.map Prod.fst) = [[3]] := by
  refine ((messages_completed_iff ScriptedQueue.usedRing (.sample (.page [5, 0, 0, 0, 100]))
    (by decide) _ [] 2).mpr ?_).1
  intro s hs chain q hpop
  rcases List.mem_cons.mp (heads_fiveBytes ▸ hs) with rfl | hs
  · obtain ⟨rfl, rfl⟩ := Prod.mk.inj (Option.some.inj (Except.ok.inj hpop))
    exact ⟨_, _, rfl, by decide, by decide, rfl⟩
  · obtain rfl := List.mem_singleton.mp hs
    cases Except.ok.inj hpop

end MoVm
