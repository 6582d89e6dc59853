import Mathlib.Data.List.Basic

/-!
# Traces of Calls

A component that is called again and again: `step s a s' b` says that the request `a`, made
in the state `s`, is answered with `b` and leaves the state `s'`. A `Trace` is a sequence of
such calls, each listed with the state it was made in, the request and the answer.

Only calls that return are part of a trace, so a statement about every trace is one about
every sequence of calls that comes to its end.

`Trace.inv` is the invariant rule, `Trace.history` the one for properties that also speak of the
calls made before, and `Trace.countP_le` bounds how many calls of a kind are made.
-/

namespace Lib

variable {σ α β : Type*}

/-- A sequence of calls from one state to another. -/
inductive Trace (step : σ → α → σ → β → Prop) : σ → List (σ × α × β) → σ → Prop
  | nil (s : σ) : Trace step s [] s
  | cons {s s' s'' : σ} {a : α} {b : β} {calls : List (σ × α × β)} :
      step s a s' b → Trace step s' calls s'' → Trace step s ((s, a, b) :: calls) s''

/-- **Invariant rule**: what every call preserves holds whenever a call is made and in the
end. -/
theorem Trace.inv {step : σ → α → σ → β → Prop} {I : σ → Prop}
    (hstep : ∀ s a s' b, I s → step s a s' b → I s') {s s' : σ} {calls : List (σ × α × β)}
    (htrace : Trace step s calls s') (hs : I s) : I s' ∧ ∀ x ∈ calls, I x.1 := by
  induction htrace with
  | nil s => exact ⟨hs, fun _ hx => absurd hx List.not_mem_nil⟩
  | cons hcall _ ih =>
      obtain ⟨hlast, hcalls⟩ := ih (hstep _ _ _ _ hs hcall)
      refine ⟨hlast, fun x hx => ?_⟩
      rcases List.mem_cons.mp hx with rfl | hx
      · exact hs
      · exact hcalls x hx

/-- **Invariant rule with history**: a property of the calls made so far and the state they
lead to, kept by one more call, holds at every point of the trace. -/
theorem Trace.history {step : σ → α → σ → β → Prop} {I : List (σ × α × β) → σ → Prop}
    (hstep : ∀ past s a s' b, I past s → step s a s' b → I (past ++ [(s, a, b)]) s') {s s' : σ}
    {calls : List (σ × α × β)} (htrace : Trace step s calls s') (hs : I [] s) :
    I calls s' ∧ ∀ before x after, calls = before ++ x :: after → I before x.1 := by
  suffices ∀ past, I past s → I (past ++ calls) s' ∧
      ∀ before x after, calls = before ++ x :: after → I (past ++ before) x.1 from
    this [] hs
  clear hs
  induction htrace with
  | nil s =>
      intro past hs
      refine ⟨by rwa [List.append_nil], fun before x after h => ?_⟩
      cases before <;> cases h
  | cons hcall _ ih =>
      intro past hs
      obtain ⟨hlast, hcalls⟩ := ih _ (hstep _ _ _ _ _ hs hcall)
      rw [List.append_assoc] at hlast
      refine ⟨hlast, fun before x after h => ?_⟩
      cases before with
      | nil =>
          obtain ⟨rfl, -⟩ := List.cons.inj h
          rwa [List.append_nil]
      | cons y before =>
          obtain ⟨rfl, htail⟩ := List.cons.inj h
          have := hcalls before x after htail
          rwa [List.append_assoc] at this

/-- A trace can be cut at any of its calls. -/
theorem Trace.split {step : σ → α → σ → β → Prop} {s s' : σ} {before after : List (σ × α × β)}
    {x : σ × α × β} (htrace : Trace step s (before ++ x :: after) s') :
    ∃ t, Trace step s before x.1 ∧ step x.1 x.2.1 t x.2.2 ∧ Trace step t after s' := by
  induction before generalizing s with
  | nil =>
      cases htrace with
      | cons hcall hrest => exact ⟨_, .nil s, hcall, hrest⟩
  | cons y before ih =>
      cases htrace with
      | cons hcall hrest =>
          obtain ⟨t, hbefore, hx, hafter⟩ := ih hrest
          exact ⟨t, .cons hcall hbefore, hx, hafter⟩

/-- **Budget rule**: where each call that is counted lowers a budget by one, and no other raises
it, the budget bounds the number of calls counted. -/
theorem Trace.countP_le {step : σ → α → σ → β → Prop} {I : σ → Prop} (budget : σ → ℕ)
    (p : α × β → Bool) (hinv : ∀ s a s' b, I s → step s a s' b → I s')
    (hstep : ∀ s a s' b, I s → step s a s' b →
      (p (a, b)).toNat + budget s' ≤ budget s) {s s' : σ} {calls : List (σ × α × β)}
    (htrace : Trace step s calls s') (hs : I s) :
    (calls.map Prod.snd).countP p ≤ budget s := by
  induction htrace with
  | nil s => exact Nat.zero_le _
  | @cons s _ _ a b _ hcall _ ih =>
      have hrest := ih (hinv _ _ _ _ hs hcall)
      have hfirst := hstep _ _ _ _ hs hcall
      cases hp : p (a, b) with
      | true =>
          rw [List.map_cons, List.countP_cons_of_pos hp]
          rw [hp, Bool.toNat_true] at hfirst
          omega
      | false =>
          rw [List.map_cons, List.countP_cons_of_neg (by rw [hp]; exact Bool.false_ne_true)]
          omega

/-- Every listed call has been made. -/
theorem Trace.step_of_mem {step : σ → α → σ → β → Prop} {s s' : σ} {calls : List (σ × α × β)}
    (htrace : Trace step s calls s') {x : σ × α × β} (hx : x ∈ calls) :
    ∃ t, step x.1 x.2.1 t x.2.2 := by
  induction htrace with
  | nil s => exact absurd hx List.not_mem_nil
  | cons hcall _ ih =>
      rcases List.mem_cons.mp hx with rfl | hx
      · exact ⟨_, hcall⟩
      · exact ih hx

end Lib
