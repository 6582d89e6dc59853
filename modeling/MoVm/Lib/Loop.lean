import Mathlib.Data.List.Forall2

/-!
# Loops with Early Exit

Rules for the two loop shapes of imperative code that polls a queue: a `while` loop
that may return from the middle (`loop`), and a `for` loop over an iterator that reads
the very state its body changes (`forEach`). Both are driven by a body that answers
with a `Flow`: go on in a new state, or leave with a result.

`loop` takes a number of iterations and reports `none` while it has not left by then,
so a statement for every number of iterations covers runs that never end. `forEach`
steps a cursor `κ` with `next : σ → κ → Option (δ × κ)`; the state argument is what
lets the body change what the iterator yields. The bound it takes is that of the
iterator itself, and running into it is the normal end of the loop.

Facts about a run are stated over what it visits: `loopHeads` lists the states at the
loop head and `visits` the pairs of state and item handed to a `for` body. An invariant
need only be preserved along those (`loop_inv`, `forEach_inv`).

## Main results

* `loop_inv`, `forEach_inv`: the invariant rules.
* `loop_drain`: a loop that works off a list of pending items.
* `loop_log`: a log to which every iteration appends.
* `forEach_exit`, `forEach_last`: the first visit on which the body leaves decides the loop,
  and the last visit is how it ends.
* `forEach_none_iff`: a stricter body that goes on wherever the other one has been.
* `forEach_of_yields`: an iterator that yields a fixed list, as long as an invariant
  holds, may be replaced by that list.
* `forList_ends`, `forList_rel`: a loop over a list that goes on at every item comes to
  its end, and what its steps add, the loop adds up.
* `bind_ok_iff`, `mapM_ok_iff`: calls in sequence succeed when each of them does.
-/

namespace Lib

variable {σ κ δ ρ : Type*}

/-- The answer of a loop body: continue in a new state, or leave with a result. -/
inductive Flow (σ ρ : Type*)
  | next (s : σ)
  | exit (s : σ) (r : ρ)

/-- The state a loop body leaves behind, whichever way it answers. -/
def Flow.state : Flow σ ρ → σ
  | .next s => s
  | .exit s _ => s

@[simp] theorem Flow.state_next (s : σ) : (Flow.next s : Flow σ ρ).state = s := rfl

@[simp] theorem Flow.state_exit (s : σ) (r : ρ) : (Flow.exit s r).state = s := rfl

/-- The same answer with another result. -/
def Flow.mapExit {ρ' : Type*} (f : ρ → ρ') : Flow σ ρ → Flow σ ρ'
  | .next s => .next s
  | .exit s r => .exit s (f r)

/-! ### The `while` loop -/

/-- At most `n` iterations of `body`: the state reached, and the result if the loop has
left by then. -/
def loop (body : σ → Flow σ ρ) : ℕ → σ → σ × Option ρ
  | 0, s => (s, none)
  | n + 1, s =>
      match body s with
      | .next s' => loop body n s'
      | .exit s' r => (s', some r)

/-- The states at the head of the loop during its first `n` iterations, in order. -/
def loopHeads (body : σ → Flow σ ρ) : ℕ → σ → List σ
  | 0, _ => []
  | n + 1, s =>
      s :: match body s with
        | .next s' => loopHeads body n s'
        | .exit _ _ => []

theorem loop_next {body : σ → Flow σ ρ} {s s' : σ} (h : body s = .next s') (n : ℕ) :
    loop body (n + 1) s = loop body n s' := by
  rw [loop, h]

theorem loop_exit {body : σ → Flow σ ρ} {s s' : σ} {r : ρ} (h : body s = .exit s' r)
    (n : ℕ) : loop body (n + 1) s = (s', some r) := by
  rw [loop, h]

/-- A body that leaves without changing the state ends the loop in its first iteration. -/
theorem loop_exit_self {body : σ → Flow σ ρ} {s : σ} {r : ρ} (h : body s = .exit s r) (n : ℕ) :
    loop body n s = (s, if n = 0 then none else some r) := by
  cases n with
  | zero => rfl
  | succ n => rw [loop_exit h, if_neg (Nat.succ_ne_zero n)]

/-- **Invariant rule of the `while` loop**: what each visited iteration preserves holds
at every loop head and in the state reached. -/
theorem loop_inv {body : σ → Flow σ ρ} {I : σ → Prop} {n : ℕ} {s : σ}
    (step : ∀ t ∈ loopHeads body n s, I t → I (body t).state) (init : I s) :
    I (loop body n s).1 ∧ ∀ t ∈ loopHeads body n s, I t := by
  induction n generalizing s with
  | zero => exact ⟨init, by simp only [loopHeads, List.not_mem_nil, false_implies, implies_true]⟩
  | succ n ih =>
      have hstep := step s List.mem_cons_self init
      cases hb : body s with
      | next s' =>
          simp only [loopHeads, hb] at step ⊢
          rw [hb] at hstep
          obtain ⟨hlast, hheads⟩ :=
            ih (fun t ht => step t (List.mem_cons_of_mem _ ht)) hstep
          rw [loop_next hb]
          refine ⟨hlast, fun t ht => ?_⟩
          rcases List.mem_cons.mp ht with rfl | ht
          · exact init
          · exact hheads t ht
      | exit s' r =>
          rw [hb] at hstep
          rw [loop_exit hb]
          simp only [loopHeads, hb, List.mem_singleton, forall_eq]
          exact ⟨hstep, init⟩

/-- An iteration on which the body leaves is the last one, and decides the loop. -/
theorem loop_eq_of_mem {body : σ → Flow σ ρ} {n : ℕ} {s t t' : σ} {r : ρ}
    (ht : t ∈ loopHeads body n s) (he : body t = .exit t' r) :
    loop body n s = (t', some r) := by
  induction n generalizing s with
  | zero => exact absurd ht List.not_mem_nil
  | succ n ih =>
      rw [loopHeads] at ht
      rcases List.mem_cons.mp ht with rfl | ht
      · exact loop_exit he n
      · cases hb : body s with
        | next s' =>
            rw [hb] at ht
            rw [loop_next hb]
            exact ih ht
        | exit s' r' =>
            rw [hb] at ht
            exact absurd ht List.not_mem_nil

/-- A loop that has left has done so in some iteration. -/
theorem exists_mem_of_loop {body : σ → Flow σ ρ} {n : ℕ} {s t' : σ} {r : ρ}
    (h : loop body n s = (t', some r)) : ∃ t ∈ loopHeads body n s, body t = .exit t' r := by
  induction n generalizing s with
  | zero => cases (Prod.mk.inj h).2
  | succ n ih =>
      rw [loopHeads]
      cases hb : body s with
      | next s' =>
          rw [loop_next hb] at h
          obtain ⟨t, ht, he⟩ := ih h
          exact ⟨t, List.mem_cons_of_mem _ ht, he⟩
      | exit s' r' =>
          rw [loop_exit hb] at h
          obtain ⟨rfl, hr⟩ := Prod.mk.inj h
          obtain rfl := Option.some.inj hr
          exact ⟨s, List.mem_cons_self, hb⟩

/-- **A quantity that each iteration updates**: the loop carries out the updates in order. -/
theorem loop_foldl {β : Type*} (body : σ → Flow σ ρ) (f : σ → β) (update : β → σ → β) {n : ℕ}
    {s : σ} (h : ∀ t ∈ loopHeads body n s, f (body t).state = update (f t) t) :
    f (loop body n s).1 = (loopHeads body n s).foldl update (f s) := by
  induction n generalizing s with
  | zero => rfl
  | succ n ih =>
      have hs := h s List.mem_cons_self
      cases hb : body s with
      | next s' =>
          simp only [loopHeads, hb] at h ⊢
          rw [hb] at hs
          rw [loop_next hb, ih fun t ht => h t (List.mem_cons_of_mem _ ht), List.foldl_cons, ← hs]
          rfl
      | exit s' r =>
          rw [hb] at hs
          rw [loop_exit hb, loopHeads, hb]
          exact hs

/-- **A log that grows with the loop**: what each iteration appends to it, the loop appends in
order. -/
theorem loop_log {α : Type*} (body : σ → Flow σ ρ) (log emit : σ → List α) {n : ℕ} {s : σ}
    (h : ∀ t ∈ loopHeads body n s, log (body t).state = log t ++ emit t) :
    log (loop body n s).1 = log s ++ (loopHeads body n s).flatMap emit := by
  rw [loop_foldl body log (fun l t => l ++ emit t) h, List.foldl_append_eq_append,
    List.flatMap_def]

/-- The log has grown when some iteration has appended to it. -/
theorem loop_log_ne_iff {α : Type*} (body : σ → Flow σ ρ) (log emit : σ → List α) {n : ℕ} {s : σ}
    (h : ∀ t ∈ loopHeads body n s, log (body t).state = log t ++ emit t) :
    log (loop body n s).1 ≠ log s ↔ ∃ t ∈ loopHeads body n s, emit t ≠ [] := by
  rw [loop_log body log emit h, ne_eq, List.append_right_eq_self, List.flatMap_eq_nil_iff]
  simp only [not_forall, exists_prop, ne_eq]

/-- Where no item gives more than it should, all of it is there exactly when each item gives what
it should. -/
theorem flatMap_eq_iff_of_length_le {α β : Type*} {f g : α → List β} {l : List α}
    (h : ∀ t ∈ l, (f t).length ≤ (g t).length) :
    l.flatMap f = l.flatMap g ↔ ∀ t ∈ l, f t = g t := by
  refine ⟨fun heq => ?_, fun hall => List.flatMap_congr hall⟩
  have hle : ∀ l' : List α, (∀ t ∈ l', (f t).length ≤ (g t).length) →
      (l'.flatMap f).length ≤ (l'.flatMap g).length := by
    intro l' hl'
    induction l' with
    | nil => exact Nat.le_refl _
    | cons t l' ih =>
        obtain ⟨ht, hrest⟩ := List.forall_mem_cons.mp hl'
        rw [List.flatMap_cons, List.flatMap_cons, List.length_append, List.length_append]
        exact Nat.add_le_add ht (ih hrest)
  induction l with
  | nil => exact List.forall_mem_nil _
  | cons t l ih =>
      obtain ⟨ht, hrest⟩ := List.forall_mem_cons.mp h
      rw [List.flatMap_cons, List.flatMap_cons] at heq
      -- the lengths add up, so the first parts are equally long
      have hlen := congrArg List.length heq
      rw [List.length_append, List.length_append] at hlen
      have hl := hle l hrest
      obtain ⟨hfirst, hlast⟩ := List.append_inj heq (by omega)
      exact List.forall_mem_cons.mpr ⟨hfirst, ih hrest hlast⟩

/-- Some iteration leaves the loop with an error. -/
def LoopFails {ε α : Type*} (body : σ → Flow σ (Except ε α)) (n : ℕ) (s : σ) : Prop :=
  ∃ t ∈ loopHeads body n s, ∃ t' e, body t = .exit t' (.error e)

theorem loopFails_of_error {ε α : Type*} {body : σ → Flow σ (Except ε α)} {n : ℕ} {s t : σ}
    {e : ε} (h : loop body n s = (t, some (.error e))) : LoopFails body n s := by
  obtain ⟨t', ht', he⟩ := exists_mem_of_loop h
  exact ⟨t', ht', t, e, he⟩

theorem not_loopFails_of_ok {ε α : Type*} {body : σ → Flow σ (Except ε α)} {n : ℕ} {s t : σ}
    {a : α} (h : loop body n s = (t, some (.ok a))) : ¬LoopFails body n s := by
  rintro ⟨t', ht', t'', e, he⟩
  rw [loop_eq_of_mem ht' he] at h
  cases (Prod.mk.inj h).2

/-- **A loop that works off a list**: each iteration takes the first pending item, and the loop
leaves when there is none. It then comes to its end, and what an iteration adds to the items
worked off so far, the loop adds up for all of them. -/
theorem loop_drain {ι : Type*} {body : σ → Flow σ ρ} (pending : σ → List ι)
    {I : List ι → σ → Prop} {r : ρ} {s : σ}
    (hdone : ∀ t, I (pending s) t → pending t = [] → body t = .exit t r)
    (hstep : ∀ done t x rest, pending s = done ++ x :: rest → I done t → pending t = x :: rest →
      ∃ t', body t = .next t' ∧ pending t' = rest ∧ I (done ++ [x]) t')
    (hs : I [] s) {n : ℕ} (hn : (pending s).length < n) :
    ∃ t, loop body n s = (t, some r) ∧ pending t = [] ∧ I (pending s) t := by
  suffices ∀ todo done t, pending s = done ++ todo → I done t → pending t = todo →
      ∀ n, todo.length < n →
        ∃ t', loop body n t = (t', some r) ∧ pending t' = [] ∧ I (pending s) t' from
    this (pending s) [] s rfl hs rfl n hn
  intro todo
  induction todo with
  | nil =>
      intro done t hsplit ht hpend n hn
      obtain ⟨k, rfl⟩ : ∃ k, n = k + 1 := ⟨n - 1, by rw [List.length_nil] at hn; omega⟩
      rw [List.append_nil] at hsplit
      rw [← hsplit] at ht
      exact ⟨t, loop_exit (hdone t ht hpend) k, hpend, ht⟩
  | cons x rest ih =>
      intro done t hsplit ht hpend n hn
      rw [List.length_cons] at hn
      obtain ⟨k, rfl⟩ : ∃ k, n = k + 1 := ⟨n - 1, by omega⟩
      obtain ⟨t', hbody, hpend', ht'⟩ := hstep done t x rest hsplit ht hpend
      rw [loop_next hbody]
      refine ih (done ++ [x]) t' ?_ ht' hpend' k (by omega)
      rw [hsplit, List.append_assoc, List.singleton_append]

/-! ### The `for` loop over an iterator -/

/-- Step the cursor `c` at most `n` times and run `body` on what it yields. The result
is `none` when the iterator ends before the body leaves. -/
def forEach (next : σ → κ → Option (δ × κ)) (body : σ → δ → Flow σ ρ) :
    ℕ → κ → σ → σ × Option ρ
  | 0, _, s => (s, none)
  | n + 1, c, s =>
      match next s c with
      | none => (s, none)
      | some (d, c') =>
          match body s d with
          | .next s' => forEach next body n c' s'
          | .exit s' r => (s', some r)

/-- The pairs of state and item the body is run on, in order. -/
def visits (next : σ → κ → Option (δ × κ)) (body : σ → δ → Flow σ ρ) :
    ℕ → κ → σ → List (σ × δ)
  | 0, _, _ => []
  | n + 1, c, s =>
      match next s c with
      | none => []
      | some (d, c') =>
          (s, d) :: match body s d with
            | .next s' => visits next body n c' s'
            | .exit _ _ => []

/-- **Invariant rule of the `for` loop**: what each visited iteration preserves holds
on every visit and in the state reached. -/
theorem forEach_inv {next : σ → κ → Option (δ × κ)} {body : σ → δ → Flow σ ρ}
    {I : σ → Prop} {n : ℕ} {c : κ} {s : σ}
    (step : ∀ x ∈ visits next body n c s, I x.1 → I (body x.1 x.2).state) (init : I s) :
    I (forEach next body n c s).1 ∧ ∀ x ∈ visits next body n c s, I x.1 := by
  induction n generalizing c s with
  | zero => exact ⟨init, by simp only [visits, List.not_mem_nil, false_implies, implies_true]⟩
  | succ n ih =>
      cases hn : next s c with
      | none =>
          simp only [forEach, visits, hn, List.not_mem_nil, false_implies, implies_true,
            and_true]
          exact init
      | some dc =>
          obtain ⟨d, c'⟩ := dc
          simp only [forEach, visits, hn] at step ⊢
          have hstep := step (s, d) List.mem_cons_self init
          cases hb : body s d with
          | next s' =>
              simp only [hb] at step ⊢
              simp only [hb, Flow.state_next] at hstep
              obtain ⟨hlast, hvisits⟩ :=
                ih (fun x hx => step x (List.mem_cons_of_mem _ hx)) hstep
              refine ⟨hlast, fun x hx => ?_⟩
              rcases List.mem_cons.mp hx with rfl | hx
              · exact init
              · exact hvisits x hx
          | exit s' r =>
              simp only [hb, Flow.state_exit] at hstep
              simp only [List.mem_singleton, forall_eq]
              exact ⟨hstep, init⟩

/-- A visit on which the body leaves is the last one, and decides the loop. -/
theorem forEach_exit {next : σ → κ → Option (δ × κ)} {body : σ → δ → Flow σ ρ} {n : ℕ}
    {c : κ} {s t t' : σ} {d : δ} {r : ρ} (hv : (t, d) ∈ visits next body n c s)
    (he : body t d = .exit t' r) : forEach next body n c s = (t', some r) := by
  induction n generalizing c s with
  | zero => simp only [visits, List.not_mem_nil] at hv
  | succ n ih =>
      cases hn : next s c with
      | none => simp only [visits, hn, List.not_mem_nil] at hv
      | some dc =>
          obtain ⟨d', c'⟩ := dc
          simp only [forEach, visits, hn] at hv ⊢
          rcases List.mem_cons.mp hv with heq | hv
          · obtain ⟨rfl, rfl⟩ := Prod.mk.inj heq
            rw [he]
          · cases hb : body s d' with
            | next s' =>
                rw [hb] at hv
                exact ih hv
            | exit s' r' =>
                rw [hb] at hv
                exact absurd hv List.not_mem_nil

/-- A loop that the body has left has been left on some visit. -/
theorem exists_visit_of_forEach {next : σ → κ → Option (δ × κ)} {body : σ → δ → Flow σ ρ}
    {n : ℕ} {c : κ} {s t : σ} {r : ρ} (h : forEach next body n c s = (t, some r)) :
    ∃ x ∈ visits next body n c s, body x.1 x.2 = .exit t r := by
  induction n generalizing c s with
  | zero => cases (Prod.mk.inj h).2
  | succ n ih =>
      cases hn : next s c with
      | none =>
          simp only [forEach, hn] at h
          cases (Prod.mk.inj h).2
      | some dc =>
          obtain ⟨d, c'⟩ := dc
          simp only [forEach, visits, hn] at h ⊢
          cases hb : body s d with
          | next s' =>
              simp only [hb] at h ⊢
              obtain ⟨x, hx, he⟩ := ih h
              exact ⟨x, List.mem_cons_of_mem _ hx, he⟩
          | exit s' r' =>
              simp only [hb] at h
              obtain ⟨rfl, hr⟩ := Prod.mk.inj h
              obtain rfl := Option.some.inj hr
              exact ⟨(s, d), List.mem_cons_self, hb⟩

/-- A loop that has visited nothing has come to its end at once. -/
theorem forEach_of_visits_nil {next : σ → κ → Option (δ × κ)} {body : σ → δ → Flow σ ρ} {n : ℕ}
    {c : κ} {s : σ} (h : visits next body n c s = []) : forEach next body n c s = (s, none) := by
  cases n with
  | zero => rfl
  | succ n =>
      cases hn : next s c with
      | none => simp only [forEach, hn]
      | some _ => simp only [visits, hn, reduceCtorEq] at h

/-- What the last visit does is how the loop ends. -/
theorem forEach_last {next : σ → κ → Option (δ × κ)} {body : σ → δ → Flow σ ρ} {n : ℕ} {c : κ}
    {s : σ} {x : σ × δ} (hlast : (visits next body n c s).getLast? = some x) :
    body x.1 x.2 = match forEach next body n c s with
      | (t, none) => .next t
      | (t, some r) => .exit t r := by
  induction n generalizing c s with
  | zero => cases hlast
  | succ n ih =>
      cases hn : next s c with
      | none =>
          simp only [visits, hn] at hlast
          cases hlast
      | some dc =>
          obtain ⟨d, c'⟩ := dc
          simp only [forEach, visits, hn] at hlast ⊢
          cases hb : body s d with
          | next s' =>
              simp only [hb] at hlast ⊢
              rcases hv : visits next body n c' s' with _ | ⟨y, ys⟩
              · -- nothing more is visited, so the loop ends here
                rw [hv, List.getLast?_singleton] at hlast
                obtain rfl := Option.some.inj hlast
                rw [forEach_of_visits_nil hv]
                exact hb
              · rw [hv, List.getLast?_cons_cons, ← hv] at hlast
                exact ih hlast
          | exit s' r =>
              simp only [hb, List.getLast?_singleton, Option.some.injEq] at hlast
              obtain rfl := hlast
              exact hb

/-- **A quantity that each visit updates**: the loop carries out the updates in order. -/
theorem forEach_foldl {β : Type*} {next : σ → κ → Option (δ × κ)} {body : σ → δ → Flow σ ρ}
    (f : σ → β) (update : β → σ × δ → β) {n : ℕ} {c : κ} {s : σ}
    (h : ∀ x ∈ visits next body n c s, f (body x.1 x.2).state = update (f x.1) x) :
    f (forEach next body n c s).1 = (visits next body n c s).foldl update (f s) := by
  induction n generalizing c s with
  | zero => rfl
  | succ n ih =>
      cases hn : next s c with
      | none => simp only [forEach, visits, hn, List.foldl_nil]
      | some dc =>
          obtain ⟨d, c'⟩ := dc
          simp only [forEach, visits, hn] at h ⊢
          have hs := h (s, d) List.mem_cons_self
          cases hb : body s d with
          | next s' =>
              simp only [hb] at h ⊢
              rw [hb] at hs
              rw [ih fun x hx => h x (List.mem_cons_of_mem _ hx), List.foldl_cons, ← hs]
              rfl
          | exit s' r =>
              rw [hb] at hs
              exact hs

/-- **A stricter body**: where it goes on only if the other one does, and to the same state, its
loop comes to its end exactly when it goes on at every visit of the other loop. -/
theorem forEach_none_iff {next : σ → κ → Option (δ × κ)} {body strict : σ → δ → Flow σ ρ}
    (hnext : ∀ s d s', strict s d = .next s' → body s d = .next s') {n : ℕ} {c : κ} {s : σ} :
    (forEach next strict n c s).2 = none ↔
      ∀ x ∈ visits next body n c s, ∃ t, strict x.1 x.2 = .next t := by
  induction n generalizing c s with
  | zero => exact ⟨fun _ => List.forall_mem_nil _, fun _ => rfl⟩
  | succ n ih =>
      cases hn : next s c with
      | none =>
          simp only [forEach, visits, hn]
          exact ⟨fun _ => List.forall_mem_nil _, fun _ => trivial⟩
      | some dc =>
          obtain ⟨d, c'⟩ := dc
          simp only [forEach, visits, hn, List.forall_mem_cons]
          cases hb : strict s d with
          | next s' =>
              simp only [hnext s d s' hb, ih]
              exact ⟨fun h => ⟨⟨s', rfl⟩, h⟩, fun h => h.2⟩
          | exit s' r => simp only [reduceCtorEq, exists_false, false_and]

/-- A loop whose body agrees with another one, except where it leaves with a result that is not
`good`, agrees with the other loop unless it ends with such a result. -/
theorem forEach_agrees {next : σ → κ → Option (δ × κ)} {body body' : σ → δ → Flow σ ρ}
    (good : ρ → Prop) (hnext : ∀ s d s', body s d = .next s' → body' s d = .next s')
    (hexit : ∀ s d s' r, body s d = .exit s' r → good r → body' s d = .exit s' r) {n : ℕ} {c : κ}
    {s t : σ} {r : Option ρ} (h : forEach next body n c s = (t, r)) (hr : ∀ x ∈ r, good x) :
    forEach next body' n c s = (t, r) := by
  induction n generalizing c s with
  | zero => exact h
  | succ n ih =>
      rw [forEach] at h ⊢
      cases hn : next s c with
      | none =>
          rw [hn] at h
          exact h
      | some dc =>
          obtain ⟨d, c'⟩ := dc
          simp only [hn] at h ⊢
          cases hb : body s d with
          | next s' =>
              rw [hb] at h
              rw [hnext s d s' hb]
              exact ih h
          | exit s' x =>
              rw [hb] at h
              obtain ⟨rfl, rfl⟩ := Prod.mk.inj h
              rw [hexit s d s' x hb (hr x rfl)]

/-! ### The `for` loop over a list -/

/-- The `for` loop over a list. -/
def forList (body : σ → δ → Flow σ ρ) : List δ → σ → σ × Option ρ
  | [], s => (s, none)
  | d :: ds, s =>
      match body s d with
      | .next s' => forList body ds s'
      | .exit s' r => (s', some r)

/-- A loop whose body goes on at every item, as long as `I` holds, comes to its end. -/
theorem forList_ends {body : σ → δ → Flow σ ρ} {I : σ → Prop} {ds : List δ}
    (hbody : ∀ s, ∀ d ∈ ds, I s → ∃ s', body s d = .next s' ∧ I s') {s : σ} (hs : I s) :
    ∃ t, forList body ds s = (t, none) ∧ I t := by
  induction ds generalizing s with
  | nil => exact ⟨s, rfl, hs⟩
  | cons d ds ih =>
      obtain ⟨s', hb, hs'⟩ := hbody s d List.mem_cons_self hs
      rw [forList, hb]
      exact ih (fun t e he => hbody t e (List.mem_cons_of_mem _ he)) hs'

/-- A loop that comes to its end has gone on at every item: what each such step adds,
the loop adds up. -/
theorem forList_rel {body : σ → δ → Flow σ ρ} {R : List δ → σ → Prop} {ds : List δ} {s t : σ}
    (hnil : R [] s)
    (hstep : ∀ es u u', ∀ d ∈ ds, R es u → body u d = .next u' → R (es ++ [d]) u')
    (h : forList body ds s = (t, none)) : R ds t := by
  suffices ∀ es u, R es u → forList body ds u = (t, none) → R (es ++ ds) t from
    this [] s hnil h
  clear h hnil
  induction ds with
  | nil =>
      intro es u hu h
      obtain rfl : u = t := (Prod.mk.inj h).1
      rwa [List.append_nil]
  | cons d ds ih =>
      intro es u hu h
      rw [forList] at h
      cases hb : body u d with
      | next u' =>
          rw [hb] at h
          have := ih (fun es u u' e he => hstep es u u' e (List.mem_cons_of_mem _ he))
            (es ++ [d]) u' (hstep es u u' d List.mem_cons_self hu hb) h
          rwa [List.append_assoc] at this
      | exit u' r =>
          rw [hb] at h
          cases (Prod.mk.inj h).2

/-- **Another result**: a body that answers the same but for its results makes the same loop but
for its result. -/
theorem forList_mapExit {ρ' : Type*} {body : σ → δ → Flow σ ρ} {body' : σ → δ → Flow σ ρ'}
    {f : ρ → ρ'} (hbody : ∀ s d, body' s d = (body s d).mapExit f) (ds : List δ) (s : σ) :
    forList body' ds s = ((forList body ds s).1, (forList body ds s).2.map f) := by
  induction ds generalizing s with
  | nil => rfl
  | cons d ds ih =>
      rw [forList, forList, hbody s d]
      cases body s d with
      | next s' => exact ih s'
      | exit s' r => rfl

/-- Items on which the body does nothing may be left out. -/
theorem forList_filter {body : σ → δ → Flow σ ρ} {p : δ → Bool}
    (hskip : ∀ s d, p d = false → body s d = .next s) (ds : List δ) (s : σ) :
    forList body (ds.filter p) s = forList body ds s := by
  induction ds generalizing s with
  | nil => rfl
  | cons d ds ih =>
      cases hp : p d with
      | false =>
          rw [List.filter_cons_of_neg (by rw [hp]; exact Bool.false_ne_true), ih, forList,
            hskip s d hp]
      | true =>
          rw [List.filter_cons_of_pos hp, forList, forList]
          cases body s d with
          | next s' => exact ih s'
          | exit s' r => rfl

/-! ### Iterators that yield a list -/

/-- The cursor `c` yields exactly the items `ds` in every state satisfying `I`. -/
def Yields (next : σ → κ → Option (δ × κ)) (I : σ → Prop) : κ → List δ → Prop
  | c, [] => ∀ s, I s → next s c = none
  | c, d :: ds => ∃ c', (∀ s, I s → next s c = some (d, c')) ∧ Yields next I c' ds

/-- A cursor that reads only a part `f t` of the state yields the same items. -/
theorem Yields.comap {τ : Type*} {next : σ → κ → Option (δ × κ)} {I : σ → Prop} (f : τ → σ)
    {c : κ} {ds : List δ} (hy : Yields next I c ds) :
    Yields (fun t c => next (f t) c) (fun t => I (f t)) c ds := by
  induction ds generalizing c with
  | nil => exact fun t ht => hy (f t) ht
  | cons d ds ih =>
      obtain ⟨c', hnext, hy'⟩ := hy
      exact ⟨c', fun t ht => hnext (f t) ht, ih hy'⟩

/-- An iterator that yields `ds` while `I` holds may be replaced by `ds`, when the body
keeps `I` on the items of `ds` and the bound is not shorter than `ds`. -/
theorem forEach_of_yields {next : σ → κ → Option (δ × κ)} {body : σ → δ → Flow σ ρ}
    {I : σ → Prop} {n : ℕ} {c : κ} {ds : List δ} {s : σ} (hy : Yields next I c ds)
    (hbody : ∀ t, ∀ d ∈ ds, I t → I (body t d).state) (hn : ds.length ≤ n) (hs : I s) :
    forEach next body n c s = forList body ds s := by
  induction ds generalizing n c s with
  | nil =>
      cases n with
      | zero => rfl
      | succ n => rw [forEach, hy s hs, forList]
  | cons d ds ih =>
      obtain ⟨c', hnext, hy'⟩ := hy
      rw [List.length_cons] at hn
      obtain ⟨m, rfl⟩ : ∃ m, n = m + 1 := ⟨n - 1, by omega⟩
      have hstep := hbody s d List.mem_cons_self hs
      simp only [forEach, hnext s hs, forList]
      cases hb : body s d with
      | next s' =>
          rw [hb] at hstep
          exact ih hy' (fun t e he => hbody t e (List.mem_cons_of_mem _ he)) (by omega) hstep
      | exit s' r => rfl

/-- A measure that drops at every step of the cursor bounds the number of items. -/
theorem length_le_of_yields {next : σ → κ → Option (δ × κ)} {I : σ → Prop}
    {measure : κ → ℕ} (hm : ∀ s c d c', next s c = some (d, c') → measure c' < measure c)
    {c : κ} {ds : List δ} {s : σ} (hs : I s) (hy : Yields next I c ds) :
    ds.length ≤ measure c := by
  induction ds generalizing c with
  | nil => exact Nat.zero_le _
  | cons d ds ih =>
      obtain ⟨c', hnext, hy'⟩ := hy
      have hlt := hm s c d c' (hnext s hs)
      have hle := ih hy'
      rw [List.length_cons]
      omega

/-! ### Calls in sequence, and loops that collect results -/

section Except

universe v

variable {ε : Type*} {α β : Type v}

/-- Mapping the error does not change when a result is `ok`. -/
theorem mapError_ok_iff {f : ε → β} {x : Except ε α} {a : α} :
    x.mapError f = .ok a ↔ x = .ok a := by
  cases x with
  | error e => simp only [Except.mapError, reduceCtorEq]
  | ok b => exact ⟨fun h => congrArg _ (Except.ok.inj h), fun h => congrArg _ (Except.ok.inj h)⟩

theorem pure_ok_iff {a b : α} : (pure a : Except ε α) = .ok b ↔ b = a :=
  ⟨fun h => (Except.ok.inj h).symm, fun h => congrArg _ h.symm⟩

/-- A call and what follows it succeed together. -/
theorem bind_ok_iff {x : Except ε α} {f : α → Except ε β} {b : β} :
    (x >>= f) = .ok b ↔ ∃ a, x = .ok a ∧ f a = .ok b := by
  cases x with
  | error e => exact ⟨fun h => (nomatch h), fun ⟨_, h, _⟩ => (nomatch h)⟩
  | ok a =>
      constructor
      · exact fun h => ⟨a, rfl, h⟩
      · rintro ⟨a', ha', h⟩
        obtain rfl := Except.ok.inj ha'
        exact h

end Except

/-- A fallible `map` succeeds exactly when each call does. -/
theorem mapM_ok_iff {α β ε : Type*} {f : α → Except ε β} {l : List α} {ys : List β} :
    l.mapM f = .ok ys ↔ List.Forall₂ (fun x y => f x = .ok y) l ys := by
  induction l generalizing ys with
  | nil =>
      rw [List.mapM_nil, List.forall₂_nil_left_iff]
      exact ⟨fun h => (Except.ok.inj h).symm, fun h => h ▸ rfl⟩
  | cons x l ih =>
      simp only [List.mapM_cons, bind_ok_iff]
      constructor
      · rintro ⟨y, hy, zs, hzs, h⟩
        obtain rfl : y :: zs = ys := Except.ok.inj h
        exact .cons hy (ih.mp hzs)
      · rintro (_ | ⟨hy, hzs⟩)
        exact ⟨_, hy, _, ih.mpr hzs, rfl⟩

/-- What each call keeps of its argument, the whole result keeps of the list. -/
theorem map_of_mapM_ok {α β γ ε : Type*} {f : α → Except ε β} {g : β → γ} {k : α → γ}
    {l : List α} {ys : List β} (hf : ∀ x y, f x = .ok y → g y = k x)
    (h : l.mapM f = .ok ys) : ys.map g = l.map k := by
  induction mapM_ok_iff.mp h with
  | nil => rfl
  | cons hx hl ih => rw [List.map_cons, List.map_cons, hf _ _ hx, ih (mapM_ok_iff.mpr hl)]

theorem mapM_ok_of_forall {α β ε : Type*} {f : α → Except ε β} {l : List α}
    (h : ∀ x ∈ l, ∃ y, f x = .ok y) : ∃ ys, l.mapM f = .ok ys := by
  simp only [mapM_ok_iff]
  induction l with
  | nil => exact ⟨[], .nil⟩
  | cons x l ih =>
      obtain ⟨y, hy⟩ := h x List.mem_cons_self
      obtain ⟨ys, hys⟩ := ih fun z hz => h z (List.mem_cons_of_mem _ hz)
      exact ⟨y :: ys, .cons hy hys⟩

/-- The result at a position is that of the call at this position. -/
theorem getElem?_of_mapM_ok {α β ε : Type*} {f : α → Except ε β} {l : List α} {ys : List β}
    (h : l.mapM f = .ok ys) {i : ℕ} {x : α} (hx : l[i]? = some x) :
    ∃ y, ys[i]? = some y ∧ f x = .ok y := by
  have h' := mapM_ok_iff.mp h
  obtain ⟨hi, rfl⟩ := List.getElem?_eq_some_iff.mp hx
  have hi' : i < ys.length := h'.length_eq ▸ hi
  exact ⟨ys[i], List.getElem?_eq_getElem hi', h'.get hi hi'⟩

/-- Every result is that of a call. -/
theorem mem_of_mapM_ok {α β ε : Type*} {f : α → Except ε β} {l : List α} {ys : List β}
    (h : l.mapM f = .ok ys) {y : β} (hy : y ∈ ys) : ∃ x ∈ l, f x = .ok y := by
  induction mapM_ok_iff.mp h with
  | nil => exact absurd hy List.not_mem_nil
  | @cons x z l ys hx hl ih =>
      rcases List.mem_cons.mp hy with rfl | hy
      · exact ⟨x, List.mem_cons_self, hx⟩
      · obtain ⟨x', hx', hfx'⟩ := ih (mapM_ok_iff.mpr hl) hy
        exact ⟨x', List.mem_cons_of_mem _ hx', hfx'⟩

end Lib
