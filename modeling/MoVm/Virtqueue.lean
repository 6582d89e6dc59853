import MoVm.GuestMemory
import MoVm.Lib.Loop

/-!
# Virtqueues

The devices take their work from virtqueues, which the `virtio-queue` crate implements
over rings in guest memory. The crate enters as a parameter: a `VirtioQueue Q C` is a
type `Q` of queue states and a type `C` of cursors into descriptor chains with the calls
the devices make. Nothing is assumed about where the chains come from; `pop` and `next`
read guest memory, so a device that overwrites a ring or a descriptor table changes what
it is handed next. The only law is that of the crate's `ttl` counter, which bounds the
length of a chain.

`VirtioQueue.Rings` is the further assumption, for the results that need it, that the
queue does deliver: its rings occupy a set of addresses, chains are popped in order and
yield their descriptors as long as nobody else writes into the rings, and completing a
chain appends one entry to the used ring and writes nowhere else.

Whether the queue is in order is read off guest memory too: `iter` refuses an available index
that is too far ahead, so `ready` is a predicate of the memory, which holds again in every memory
with the same rings.

`VirtioQueue.UsedRing` is what completing a chain does in any case, also when the guest or a
request has overwritten the rings: it writes to the used ring and nowhere else, and the entries
placed so far are those of the calls that succeeded. `VirtioQueue.Acceptance` says which calls
succeed: `add_used` looks at the head index and at where the used ring lies, and at no byte of
guest memory.

`ScriptedQueue` is a queue whose rings are kept outside guest memory; it satisfies all of them.

A queue starts out not ready, and nothing can be popped from it until the driver has set it
up: `VirtioQueue.Readiness`. `GatedQueue` is a scripted queue with a flag for it.
-/

open Lib

namespace MoVm

/-- A buffer descriptor as the guest wrote it. -/
structure Descriptor where
  addr : UInt64
  len : UInt32
  flags : UInt16
deriving DecidableEq

/-- No byte of the buffer is at an address where `ring` holds. -/
def Descriptor.Avoids (d : Descriptor) (ring : ℕ → Prop) : Prop :=
  ∀ a, d.addr.toNat ≤ a → a < d.addr.toNat + d.len.toNat → ¬ring a

/-- The calls of the `virtio-queue` crate. Errors are carried by their display text. -/
structure VirtioQueue (Q C : Type) where
  /-- `Queue::new(max_size)`. -/
  create : UInt16 → Q
  /-- `queue.iter(mem)?.next()`: take the next available chain. -/
  pop : GuestMemory → Q → Except String (Option (C × Q))
  /-- `desc_chain.head_index()`. -/
  headIndex : C → UInt16
  /-- The `ttl` field of the chain: how many descriptors it can still yield. -/
  ttl : C → ℕ
  /-- `desc_chain.next()`. -/
  next : GuestMemory → C → Option (Descriptor × C)
  /-- `queue.add_used(mem, head_index, len)`. -/
  addUsed : GuestMemory → Q → UInt16 → UInt32 → GuestMemory × Q × Except String Unit
  next_ttl : ∀ {m c d c'}, next m c = some (d, c') → ttl c' < ttl c

variable {Q C : Type}

/-- The two memories have the same layout and the same bytes where `ring` holds. -/
def SameRings (ring : ℕ → Prop) (m m' : GuestMemory) : Prop :=
  m'.layout = m.layout ∧ ∀ a, ring a → m'.bytes a = m.bytes a

/-- A memory has the same rings as itself. -/
theorem SameRings.refl (ring : ℕ → Prop) (m : GuestMemory) : SameRings ring m m :=
  ⟨rfl, fun _ _ => rfl⟩

/-- Having the same rings is transitive. -/
theorem SameRings.trans {ring : ℕ → Prop} {m₁ m₂ m₃ : GuestMemory}
    (h₁ : SameRings ring m₁ m₂) (h₂ : SameRings ring m₂ m₃) : SameRings ring m₁ m₃ :=
  ⟨h₂.1.trans h₁.1, fun a ha => (h₂.2 a ha).trans (h₁.2 a ha)⟩

/-- A queue that delivers its chains in order from rings in guest memory. -/
structure VirtioQueue.Rings (vq : VirtioQueue Q C) where
  /-- The addresses of the descriptor table, the available ring and the used ring. -/
  ring : Q → ℕ → Prop
  /-- The queue is set up, its rings lie in this memory, and the guest has left them in order. -/
  ready : GuestMemory → Q → Prop
  /-- The chains the guest has made available and the device has not popped, by head
  index and descriptors. -/
  avail : GuestMemory → Q → List (UInt16 × List Descriptor)
  /-- The entries placed in the used ring so far, oldest first. -/
  used : Q → List (UInt16 × UInt32)
  /-- The head index is one of this queue's descriptors. -/
  validHead : Q → UInt16 → Prop
  ready_congr : ∀ {q m m'}, SameRings (ring q) m m' → ready m q → ready m' q
  avail_congr : ∀ {q m m'}, SameRings (ring q) m m' → avail m' q = avail m q
  pop_nil : ∀ {m q}, ready m q → avail m q = [] → vq.pop m q = .ok none
  pop_cons : ∀ {m q h ds rest}, ready m q → avail m q = (h, ds) :: rest →
    ∃ c q', vq.pop m q = .ok (some (c, q')) ∧ vq.headIndex c = h ∧
      Yields vq.next (SameRings (ring q) m) c ds ∧
      ring q' = ring q ∧ ready m q' ∧ validHead q' h ∧
      avail m q' = rest ∧ used q' = used q
  addUsed_spec : ∀ {m q h} (n : UInt32), ready m q → validHead q h →
    ∃ m' q', vq.addUsed m q h n = (m', q', .ok ()) ∧ m'.layout = m.layout ∧
      (∀ a, ¬ring q a → m'.bytes a = m.bytes a) ∧
      ring q' = ring q ∧ ready m' q' ∧ avail m' q' = avail m q ∧
      used q' = used q ++ [(h, n)]

/-- What is known of the used ring whatever the rings contain. -/
structure VirtioQueue.UsedRing (vq : VirtioQueue Q C) where
  /-- The addresses of the used ring. -/
  area : Q → ℕ → Prop
  /-- The entries placed in the used ring so far, oldest first. -/
  used : Q → List (UInt16 × UInt32)
  pop_area : ∀ {m q c q'}, vq.pop m q = .ok (some (c, q')) → area q' = area q
  pop_used : ∀ {m q c q'}, vq.pop m q = .ok (some (c, q')) → used q' = used q
  addUsed_area : ∀ {m q h n m' q' r}, vq.addUsed m q h n = (m', q', r) → area q' = area q
  addUsed_frame : ∀ {m q h n m' q' r}, vq.addUsed m q h n = (m', q', r) →
    ∀ a, ¬area q a → m'.bytes a = m.bytes a
  addUsed_ok : ∀ {m q h n m' q'}, vq.addUsed m q h n = (m', q', .ok ()) →
    used q' = used q ++ [(h, n)]
  addUsed_error : ∀ {m q h n m' q' e}, vq.addUsed m q h n = (m', q', .error e) →
    used q' = used q

/-- When `add_used` succeeds: it checks the head index against the size of the queue and writes
to the used ring, which is in guest memory or not. -/
structure VirtioQueue.Acceptance (vq : VirtioQueue Q C) where
  /-- The next entry of the used ring lies in memory of this layout, and the head index is one
  of this queue's descriptors. -/
  accepts : Layout → Q → UInt16 → Prop
  addUsed_ok_iff : ∀ m q h n, (vq.addUsed m q h n).2.2 = .ok () ↔ accepts m.layout q h

/-- The descriptors that a chain yields while guest memory stays as it is, at most `n`. -/
def VirtioQueue.descriptorsUpTo (vq : VirtioQueue Q C) (m : GuestMemory) : ℕ → C → List Descriptor
  | 0, _ => []
  | n + 1, c =>
      match vq.next m c with
      | none => []
      | some (d, c') => d :: vq.descriptorsUpTo m n c'

/-- The descriptors of a chain as guest memory has them. -/
def VirtioQueue.descriptors (vq : VirtioQueue Q C) (m : GuestMemory) (c : C) : List Descriptor :=
  vq.descriptorsUpTo m (vq.ttl c) c

/-- The head index of the chain that `pop` takes, if it takes one. -/
def VirtioQueue.popped (vq : VirtioQueue Q C) (m : GuestMemory) (q : Q) : List UInt16 :=
  match vq.pop m q with
  | .ok (some (c, _)) => [vq.headIndex c]
  | _ => []

/-- The entry that `add_used` places, if it succeeds. -/
def VirtioQueue.placed (vq : VirtioQueue Q C) (m : GuestMemory) (q : Q) (h : UInt16)
    (n : UInt32) : List (UInt16 × UInt32) :=
  match (vq.addUsed m q h n).2.2 with
  | .ok () => [(h, n)]
  | .error _ => []

/-- The used ring takes a chain exactly when it says so. -/
theorem VirtioQueue.map_placed_eq_iff {vq : VirtioQueue Q C} (m : GuestMemory) (q : Q)
    (h : UInt16) (n : UInt32) :
    (vq.placed m q h n).map Prod.fst = [h] ↔ (vq.addUsed m q h n).2.2 = .ok () := by
  rw [VirtioQueue.placed]
  rcases (vq.addUsed m q h n).2.2 with e | ⟨⟩
  · simp only [List.map_nil, List.ne_cons_self, reduceCtorEq]
  · exact ⟨fun _ => rfl, fun _ => rfl⟩

/-- The used ring gets an entry exactly when `add_used` accepts the chain. -/
theorem VirtioQueue.Acceptance.placed_ne_nil_iff {vq : VirtioQueue Q C} (ac : vq.Acceptance)
    (m : GuestMemory) (q : Q) (h : UInt16) (n : UInt32) :
    vq.placed m q h n ≠ [] ↔ ac.accepts m.layout q h := by
  rw [← ac.addUsed_ok_iff m q h n, VirtioQueue.placed]
  rcases (vq.addUsed m q h n).2.2 with e | ⟨⟩
  · simp only [ne_eq, not_true_eq_false, reduceCtorEq]
  · simp only [ne_eq, List.cons_ne_nil, not_false_eq_true]

/-- The queue has a chain available, and takes it back. -/
def VirtioQueue.Acceptance.Takes {vq : VirtioQueue Q C} (ac : vq.Acceptance) (m : GuestMemory)
    (q : Q) : Prop :=
  ∃ chain q', vq.pop m q = .ok (some (chain, q')) ∧ ac.accepts m.layout q' (vq.headIndex chain)

/-- Whether a queue takes a chain back is decided by the chain it has available. -/
theorem VirtioQueue.Acceptance.takes_iff {vq : VirtioQueue Q C} (ac : vq.Acceptance)
    {m : GuestMemory} {q q' : Q} {chain : C} (hpop : vq.pop m q = .ok (some (chain, q'))) :
    ac.Takes m q ↔ ac.accepts m.layout q' (vq.headIndex chain) := by
  constructor
  · rintro ⟨chain', q'', hpop', haccepts⟩
    obtain ⟨rfl, rfl⟩ := Prod.mk.inj (Option.some.inj (Except.ok.inj (hpop.symm.trans hpop')))
    exact haccepts
  · exact fun haccepts => ⟨chain, q', hpop, haccepts⟩

/-- A queue that cannot be iterated takes no chain back. -/
theorem VirtioQueue.Acceptance.not_takes_of_error {vq : VirtioQueue Q C} (ac : vq.Acceptance)
    {m : GuestMemory} {q : Q} {e : String} (hpop : vq.pop m q = .error e) : ¬ac.Takes m q := by
  rintro ⟨chain, q', h, -⟩
  rw [hpop] at h
  cases h

/-- Nor does one that has none available. -/
theorem VirtioQueue.Acceptance.not_takes_of_none {vq : VirtioQueue Q C} (ac : vq.Acceptance)
    {m : GuestMemory} {q : Q} (hpop : vq.pop m q = .ok none) : ¬ac.Takes m q := by
  rintro ⟨chain, q', h, -⟩
  rw [hpop] at h
  cases h

/-- What `add_used` appends to the used ring. -/
theorem VirtioQueue.UsedRing.used_addUsed {vq : VirtioQueue Q C} (ur : vq.UsedRing)
    (m : GuestMemory) (q : Q) (h : UInt16) (n : UInt32) :
    ur.used (vq.addUsed m q h n).2.1 = ur.used q ++ vq.placed m q h n := by
  unfold placed
  rcases hadd : vq.addUsed m q h n with ⟨m', q', e | _⟩
  · exact (ur.addUsed_error hadd).trans (List.append_nil _).symm
  · exact ur.addUsed_ok hadd

/-! ### A queue outside guest memory -/

/-- A queue given by the chains still to be delivered and the entries used so far. -/
structure ScriptedQueue where
  avail : List (UInt16 × List Descriptor)
  used : List (UInt16 × UInt32)
deriving DecidableEq

/-- A cursor into a chain of a scripted queue. -/
structure ScriptedChain where
  head : UInt16
  rest : List Descriptor
deriving DecidableEq

/-- Chains come from the script; completing one is recorded in the queue. -/
def ScriptedQueue.queue : VirtioQueue ScriptedQueue ScriptedChain where
  create _ := ⟨[], []⟩
  pop _ q :=
    match q.avail with
    | [] => .ok none
    | (h, ds) :: rest => .ok (some (⟨h, ds⟩, { q with avail := rest }))
  headIndex c := c.head
  ttl c := c.rest.length
  next _ c :=
    match c.rest with
    | [] => none
    | d :: ds => some (d, { c with rest := ds })
  addUsed m q h n := (m, { q with used := q.used ++ [(h, n)] }, .ok ())
  next_ttl {m c d c'} h := by
    obtain ⟨hd, rest⟩ := c
    cases rest with
    | nil => cases h
    | cons e ds =>
        obtain ⟨rfl, rfl⟩ := Prod.mk.inj (Option.some.inj h)
        exact Nat.lt_succ_self _

/-- A scripted chain yields its descriptors whatever the memory. -/
theorem ScriptedQueue.yields (J : GuestMemory → Prop) (h : UInt16) (ds : List Descriptor) :
    Yields ScriptedQueue.queue.next J ⟨h, ds⟩ ds := by
  induction ds with
  | nil => exact fun _ _ => rfl
  | cons d ds ih => exact ⟨⟨h, ds⟩, fun _ _ => rfl, ih⟩

/-- A scripted queue delivers, with no address taken by its rings. -/
def ScriptedQueue.rings : VirtioQueue.Rings ScriptedQueue.queue where
  ring _ _ := False
  ready _ _ := True
  avail _ q := q.avail
  used q := q.used
  validHead _ _ := True
  ready_congr _ _ := trivial
  avail_congr _ := rfl
  pop_nil {m q} _ h := by
    simp only [ScriptedQueue.queue, h]
  pop_cons {m q h ds rest} _ hq := by
    refine ⟨⟨h, ds⟩, { q with avail := rest }, ?_, rfl, ScriptedQueue.yields _ h ds, rfl,
      trivial, trivial, rfl, rfl⟩
    simp only [ScriptedQueue.queue, hq]
  addUsed_spec {m q h} n _ _ :=
    ⟨m, { q with used := q.used ++ [(h, n)] }, rfl, rfl, fun _ _ => rfl, rfl, trivial, rfl, rfl⟩

/-- The used ring of a scripted queue takes no address. -/
def ScriptedQueue.usedRing : VirtioQueue.UsedRing ScriptedQueue.queue where
  area _ _ := False
  used q := q.used
  pop_area _ := rfl
  pop_used {m q c q'} h := by
    obtain ⟨avail, used⟩ := q
    cases avail with
    | nil => cases h
    | cons x rest =>
        obtain ⟨-, rfl⟩ := Prod.mk.inj (Option.some.inj (Except.ok.inj h))
        rfl
  addUsed_area _ := rfl
  addUsed_frame h a _ := congrArg (fun m => m.bytes a) (Prod.mk.inj h).1.symm
  addUsed_ok h := by
    obtain ⟨-, rfl, -⟩ := h
    rfl
  addUsed_error h := by cases (Prod.mk.inj (Prod.mk.inj h).2).2

/-- A scripted queue takes every chain back. -/
def ScriptedQueue.acceptance : VirtioQueue.Acceptance ScriptedQueue.queue where
  accepts _ _ _ := True
  addUsed_ok_iff _ _ _ _ := iff_of_true rfl trivial

/-! ### Queues that are not ready -/

/-- A queue is created not ready, and popping from a queue that is not ready is an error. -/
structure VirtioQueue.Readiness (vq : VirtioQueue Q C) where
  /-- `queue.ready()`. -/
  isReady : Q → Bool
  /-- The display text of `Error::QueueNotReady`. -/
  queueNotReady : String
  isReady_create : ∀ maxSize, isReady (vq.create maxSize) = false
  pop_notReady : ∀ {m q}, isReady q = false → vq.pop m q = .error queueNotReady

/-- A scripted queue that delivers only when it is ready. -/
structure GatedQueue where
  ready : Bool
  script : ScriptedQueue
deriving DecidableEq

/-- The calls of a scripted queue, with an error from `pop` while the flag is down. -/
def GatedQueue.queue : VirtioQueue GatedQueue ScriptedChain where
  create n := { ready := false, script := ScriptedQueue.queue.create n }
  pop m q :=
    if q.ready then
      match ScriptedQueue.queue.pop m q.script with
      | .error e => .error e
      | .ok none => .ok none
      | .ok (some (c, script)) => .ok (some (c, { q with script }))
    else .error "trying to process requests on a queue that's not ready"
  headIndex := ScriptedQueue.queue.headIndex
  ttl := ScriptedQueue.queue.ttl
  next := ScriptedQueue.queue.next
  addUsed m q h n :=
    match ScriptedQueue.queue.addUsed m q.script h n with
    | (m, script, r) => (m, { q with script }, r)
  next_ttl := ScriptedQueue.queue.next_ttl

/-- The used ring of a gated queue is that of its script. -/
def GatedQueue.usedRing : VirtioQueue.UsedRing GatedQueue.queue where
  area _ _ := False
  used q := q.script.used
  pop_area _ := rfl
  pop_used {m q c q'} h := by
    obtain ⟨ready, avail, used⟩ := q
    cases ready with
    | false => cases h
    | true =>
        cases avail with
        | nil => cases h
        | cons x rest =>
            obtain ⟨-, rfl⟩ := Prod.mk.inj (Option.some.inj (Except.ok.inj h))
            rfl
  addUsed_area _ := rfl
  addUsed_frame h a _ := congrArg (fun m => m.bytes a) (Prod.mk.inj h).1.symm
  addUsed_ok h := by
    obtain ⟨-, rfl, -⟩ := h
    rfl
  addUsed_error h := by cases (Prod.mk.inj (Prod.mk.inj h).2).2

/-- A gated queue takes every chain back. -/
def GatedQueue.acceptance : VirtioQueue.Acceptance GatedQueue.queue where
  accepts _ _ _ := True
  addUsed_ok_iff _ _ _ _ := iff_of_true rfl trivial

/-- A gated queue is not ready until its flag is set. -/
def GatedQueue.readiness : VirtioQueue.Readiness GatedQueue.queue where
  isReady := GatedQueue.ready
  queueNotReady := "trying to process requests on a queue that's not ready"
  isReady_create _ := rfl
  pop_notReady {m q} h := by simp only [GatedQueue.queue, h, Bool.false_eq_true, if_false]

end MoVm
