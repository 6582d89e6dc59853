import MoVm.Lib.Trace

/-!
# Simulations between Systems

Two systems that take steps, related by `R`. A step of the first is matched by one of the second,
or by none at all; `obs` says which of the two it is, and what the step looks like there. Then
every trace of the first is one of the second, with the same things to be seen in the same order.

The second system may be smaller than the first, so that an invariant of it is one of the first;
or it may take in one step what the first takes in many, in which case the order of its steps is
an order in which the first appears to work.
-/

namespace Lib

variable {σ τ α β α' β' : Type*}

/-- A component of a state after an update of one of them. -/
theorem eq_or_of_update {ι γ : Type*} [DecidableEq ι] {f : ι → γ} {i j : ι} {x y : γ}
    (h : Function.update f j x i = y) : f i = y ∨ (i = j ∧ x = y) := by
  by_cases hij : i = j
  · subst hij
    rw [Function.update_self] at h
    exact .inr ⟨rfl, h⟩
  · rw [Function.update_of_ne hij] at h
    exact .inl h

/-- One trace after another. -/
theorem Trace.append {step : σ → α → σ → β → Prop} {s s' s'' : σ} {calls calls' : List (σ × α × β)}
    (h : Trace step s calls s') (h' : Trace step s' calls' s'') :
    Trace step s (calls ++ calls') s'' := by
  induction h with
  | nil s => exact h'
  | cons hcall _ ih => exact .cons hcall (ih h')

/-- What is known of every listed call can be taken for a part of the step. -/
theorem Trace.restrict {step : σ → α → σ → β → Prop} {P : α × β → Prop} {s s' : σ}
    {calls : List (σ × α × β)} (h : Trace step s calls s') (hP : ∀ x ∈ calls, P x.2) :
    Trace (fun s a s' b => step s a s' b ∧ P (a, b)) s calls s' := by
  induction h with
  | nil s => exact .nil s
  | cons hcall _ ih =>
      exact .cons ⟨hcall, hP _ List.mem_cons_self⟩
        (ih fun x hx => hP x (List.mem_cons_of_mem _ hx))

/-- What is to be seen of a sequence of calls. -/
def observed (obs : α × β → Option (α' × β')) (calls : List (σ × α × β)) : List (α' × β') :=
  (calls.map Prod.snd).filterMap obs

@[simp] theorem observed_nil (obs : α × β → Option (α' × β')) :
    observed obs ([] : List (σ × α × β)) = [] := rfl

/-- A step that is not observed adds nothing. -/
theorem observed_cons_none {obs : α × β → Option (α' × β')} {x : σ × α × β}
    (h : obs x.2 = none) (calls : List (σ × α × β)) :
    observed obs (x :: calls) = observed obs calls :=
  List.filterMap_cons_none h

/-- A step that is observed comes first. -/
theorem observed_cons_some {obs : α × β → Option (α' × β')} {x : σ × α × β} {y : α' × β'}
    (h : obs x.2 = some y) (calls : List (σ × α × β)) :
    observed obs (x :: calls) = y :: observed obs calls :=
  List.filterMap_cons_some h

/-- What is observed of two runs, one behind the other. -/
theorem observed_append (obs : α × β → Option (α' × β')) (calls calls' : List (σ × α × β)) :
    observed obs (calls ++ calls') = observed obs calls ++ observed obs calls' := by
  rw [observed, List.map_append, List.filterMap_append, observed, observed]

/-- What is observed is observed of some step. -/
theorem mem_observed {obs : α × β → Option (α' × β')} {calls : List (σ × α × β)}
    {y : α' × β'} : y ∈ observed obs calls ↔ ∃ x ∈ calls, obs x.2 = some y := by
  simp only [observed, List.mem_filterMap, List.mem_map, exists_exists_and_eq_and]

/-- A step is matched by a step, or by none. -/
def Matches (step' : τ → α' → τ → β' → Prop) (obs : α × β → Option (α' × β'))
    (R : σ → τ → Prop) (t : τ) (x : α × β) (s' : σ) : Prop :=
  (obs x = none ∧ R s' t) ∨
    ∃ a' b' t', obs x = some (a', b') ∧ step' t a' t' b' ∧ R s' t'

/-- **Simulation rule**: where every step is matched, every trace is. -/
theorem Trace.simulate {step : σ → α → σ → β → Prop} {step' : τ → α' → τ → β' → Prop}
    {obs : α × β → Option (α' × β')} {R : σ → τ → Prop}
    (hstep : ∀ s t a s' b, R s t → step s a s' b → Matches step' obs R t (a, b) s')
    {s s' : σ} {t : τ} {calls : List (σ × α × β)} (htrace : Trace step s calls s')
    (hst : R s t) :
    ∃ t' calls', Trace step' t calls' t' ∧ R s' t' ∧
      calls'.map Prod.snd = observed obs calls := by
  induction htrace generalizing t with
  | nil s => exact ⟨t, [], .nil t, hst, rfl⟩
  | cons hcall _ ih =>
      rcases hstep _ _ _ _ _ hst hcall with ⟨hnone, hR⟩ | ⟨a', b', t', hsome, hstep', hR⟩
      · obtain ⟨u, calls', hrest, hRu, hobs⟩ := ih hR
        exact ⟨u, calls', hrest, hRu, by rw [observed_cons_none hnone, hobs]⟩
      · obtain ⟨u, calls', hrest, hRu, hobs⟩ := ih hR
        refine ⟨u, _, .cons hstep' hrest, hRu, ?_⟩
        rw [observed_cons_some hsome, List.map_cons, hobs]

end Lib
