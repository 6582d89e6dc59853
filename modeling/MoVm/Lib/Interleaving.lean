import MoVm.Lib.Simulation

/-!
# Components over a Shared Store

Several components that take turns on one store, in any order. If what a component does never
depends on what the others may have done to the store, then it runs as it would by itself: after
each run of the whole system, it is where its own steps alone have taken it, and has put out what
these put out.

`solo` is the component by itself. The premise of `Trace.solo` is that on every store with an
invariant its steps are those of `solo`, and keep the invariant; the components need not be the
only ones to know it.
-/

namespace Lib

variable {ι σ μ ο : Type*}

/-- What some steps put out one after the other. -/
def soloRun (solo : σ → Option (σ × List ο)) : ℕ → σ → Option (σ × List ο)
  | 0, c => some (c, [])
  | k + 1, c => do
      let (c₁, outs) ← soloRun solo k c
      let (c₂, outs') ← solo c₁
      return (c₂, outs ++ outs')

/-- The last step of a run. -/
theorem soloRun_succ {solo : σ → Option (σ × List ο)} {k : ℕ} {c c' : σ} {outs : List ο} :
    soloRun solo (k + 1) c = some (c', outs) ↔ ∃ c₁ outs₁ outs₂,
      soloRun solo k c = some (c₁, outs₁) ∧ solo c₁ = some (c', outs₂) ∧ outs = outs₁ ++ outs₂ := by
  constructor
  · intro h
    simp only [soloRun, Option.bind_eq_bind, Option.bind_eq_some_iff, Option.pure_def] at h
    obtain ⟨⟨c₁, outs₁⟩, h₁, ⟨c₂, outs₂⟩, h₂, h₃⟩ := h
    obtain ⟨rfl, rfl⟩ := Prod.mk.inj (Option.some.inj h₃)
    exact ⟨c₁, outs₁, outs₂, h₁, h₂, rfl⟩
  · rintro ⟨c₁, outs₁, outs₂, h₁, h₂, rfl⟩
    simp only [soloRun, h₁, Option.bind_eq_bind, Option.bind_some, h₂, Option.pure_def]

theorem soloRun_one {solo : σ → Option (σ × List ο)} {c c' : σ} {outs : List ο}
    (h : solo c = some (c', outs)) : soloRun solo 1 c = some (c', outs) :=
  soloRun_succ.mpr ⟨c, [], outs, rfl, h, rfl⟩

/-- One run after another. -/
theorem soloRun_add {solo : σ → Option (σ × List ο)} {j k : ℕ} {c c₁ c₂ : σ}
    {outs₁ outs₂ : List ο} (h₁ : soloRun solo j c = some (c₁, outs₁))
    (h₂ : soloRun solo k c₁ = some (c₂, outs₂)) :
    soloRun solo (j + k) c = some (c₂, outs₁ ++ outs₂) := by
  induction k generalizing c₂ outs₂ with
  | zero =>
      obtain ⟨rfl, rfl⟩ := Prod.mk.inj (Option.some.inj h₂)
      rw [List.append_nil]
      exact h₁
  | succ k ih =>
      obtain ⟨c', outs, outs', h, hlast, rfl⟩ := soloRun_succ.mp h₂
      exact soloRun_succ.mpr ⟨c', outs₁ ++ outs, outs', ih h, hlast, (List.append_assoc ..).symm⟩

/-- A run passes through all shorter ones, and puts out at least as much. -/
theorem soloRun_of_le {solo : σ → Option (σ × List ο)} {j k : ℕ} {c c' : σ} {outs : List ο}
    (hjk : j ≤ k) (h : soloRun solo k c = some (c', outs)) :
    ∃ c₁ outs₁, soloRun solo j c = some (c₁, outs₁) ∧ outs₁ <+: outs := by
  induction hjk generalizing c' outs with
  | refl => exact ⟨c', outs, h, List.prefix_refl outs⟩
  | step _ ih =>
      obtain ⟨c₁, outs₁, outs₂, h₁, -, rfl⟩ := soloRun_succ.mp h
      obtain ⟨c₂, outs', h₂, hpre⟩ := ih h₁
      exact ⟨c₂, outs', h₂, hpre.trans (List.prefix_append outs₁ outs₂)⟩

/-- **A run to an end.** Where a component comes to a stop after `N` steps, each of its runs is a
part of that one: it takes at most `N` steps, and it can go on as long as these are not `N`. -/
theorem soloRun_to_end {solo : σ → Option (σ × List ο)} {N k : ℕ} {c c' e : σ}
    {outs outs' : List ο} (hN : soloRun solo N c = some (e, outs)) (hend : solo e = none)
    (hk : soloRun solo k c = some (c', outs')) :
    outs' <+: outs ∧ (k = N ∧ c' = e ∧ outs' = outs ∨ k < N ∧ (solo c').isSome) := by
  rcases Nat.lt_trichotomy k N with hlt | rfl | hgt
  · obtain ⟨c₂, outs₂, hnext, hpre⟩ := soloRun_of_le hlt hN
    obtain ⟨c₁, outs₁, outs₃, h₁, hstep, rfl⟩ := soloRun_succ.mp hnext
    obtain ⟨rfl, rfl⟩ := Prod.mk.inj (Option.some.inj (hk.symm.trans h₁))
    exact ⟨(List.prefix_append outs' outs₃).trans hpre, .inr ⟨hlt, by rw [hstep]; rfl⟩⟩
  · obtain ⟨rfl, rfl⟩ := Prod.mk.inj (Option.some.inj (hk.symm.trans hN))
    exact ⟨List.prefix_refl outs', .inl ⟨rfl, rfl, rfl⟩⟩
  · obtain ⟨c₂, outs₂, hnext, -⟩ := soloRun_of_le hgt hk
    obtain ⟨c₁, outs₁, outs₃, h₁, hstep, -⟩ := soloRun_succ.mp hnext
    obtain ⟨rfl, -⟩ := Prod.mk.inj (Option.some.inj (h₁.symm.trans hN))
    rw [hend] at hstep
    cases hstep

section Interleaving

variable [DecidableEq ι]

/-- One of the components takes a step; those that are not `live` have stopped. -/
def Interleaved (step : σ → μ → Option (σ × μ × List ο)) (live : ι → σ → Prop) (s : (ι → σ) × μ)
    (i : ι) (s' : (ι → σ) × μ) (outs : List ο) : Prop :=
  live i (s.1 i) ∧ ∃ c m, step (s.1 i) s.2 = some (c, m, outs) ∧ s' = (Function.update s.1 i c, m)

/-- The steps of one component. -/
def stepsOf (i : ι) (calls : List (((ι → σ) × μ) × ι × List ο)) : ℕ :=
  calls.countP fun x => x.2.1 = i

/-- What one component has put out. -/
def outputsOf (i : ι) (calls : List (((ι → σ) × μ) × ι × List ο)) : List ο :=
  (calls.filter fun x => x.2.1 = i).flatMap fun x => x.2.2

theorem stepsOf_concat (i j : ι) (calls : List (((ι → σ) × μ) × ι × List ο)) (s : (ι → σ) × μ)
    (outs : List ο) :
    stepsOf i (calls ++ [(s, j, outs)]) = stepsOf i calls + if j = i then 1 else 0 := by
  by_cases hj : j = i <;> simp [stepsOf, hj]

theorem outputsOf_concat (i j : ι) (calls : List (((ι → σ) × μ) × ι × List ο)) (s : (ι → σ) × μ)
    (outs : List ο) :
    outputsOf i (calls ++ [(s, j, outs)]) = outputsOf i calls ++ if j = i then outs else [] := by
  by_cases hj : j = i <;> simp [outputsOf, hj]

/-- **Every component runs as it would by itself**, whatever the order of the steps. -/
theorem Trace.solo {step : σ → μ → Option (σ × μ × List ο)} {live : ι → σ → Prop}
    {solo : σ → Option (σ × List ο)} {I : μ → Prop} {s s' : (ι → σ) × μ}
    {calls : List (((ι → σ) × μ) × ι × List ο)}
    (hstep : ∀ c m c' outs, I m → solo c = some (c', outs) →
      ∃ m', step c m = some (c', m', outs) ∧ I m')
    (hlive : ∀ i k c outs, soloRun solo k (s.1 i) = some (c, outs) → live i c → (solo c).isSome)
    (htrace : Trace (Interleaved step live) s calls s') (hs : I s.2) :
    I s'.2 ∧ ∀ i, soloRun solo (stepsOf i calls) (s.1 i) = some (s'.1 i, outputsOf i calls) := by
  refine (htrace.history (I := fun past t => I t.2 ∧
    ∀ i, soloRun solo (stepsOf i past) (s.1 i) = some (t.1 i, outputsOf i past)) ?_
      ⟨hs, fun _ => rfl⟩).1
  rintro past t j t' outs ⟨hI, hruns⟩ ⟨hl, c, m, hc, rfl⟩
  -- the component that moves does what it would do alone
  obtain ⟨⟨c', outs'⟩, hsolo⟩ := Option.isSome_iff_exists.mp (hlive j _ _ _ (hruns j) hl)
  obtain ⟨m', hm', hI'⟩ := hstep _ t.2 _ _ hI hsolo
  obtain ⟨rfl, rfl, rfl⟩ : c = c' ∧ m = m' ∧ outs = outs' := by
    simpa using hc.symm.trans hm'
  refine ⟨hI', fun i => ?_⟩
  show _ = some (Function.update t.1 j c i, _)
  rw [stepsOf_concat, outputsOf_concat]
  by_cases hij : j = i
  · subst hij
    rw [if_pos rfl, if_pos rfl, Function.update_self]
    exact soloRun_succ.mpr ⟨_, _, _, hruns j, hsolo, rfl⟩
  · rw [if_neg hij, if_neg hij, Function.update_of_ne (Ne.symm hij), List.append_nil]
    exact hruns i

/-- A component that is never live stays as it is. -/
theorem Trace.stopped {step : σ → μ → Option (σ × μ × List ο)} {live : ι → σ → Prop}
    {s s' : (ι → σ) × μ} {calls : List (((ι → σ) × μ) × ι × List ο)} {i : ι}
    (hstop : ∀ c, ¬live i c) (htrace : Trace (Interleaved step live) s calls s') :
    stepsOf i calls = 0 ∧ outputsOf i calls = [] ∧ s'.1 i = s.1 i := by
  refine (htrace.history (I := fun past t => stepsOf i past = 0 ∧ outputsOf i past = [] ∧
    t.1 i = s.1 i) ?_ ⟨rfl, rfl, rfl⟩).1
  rintro past t j t' outs ⟨hsteps, houts, hsame⟩ ⟨hl, c, m, -, rfl⟩
  have hij : j ≠ i := by
    rintro rfl
    exact hstop _ hl
  rw [stepsOf_concat, outputsOf_concat, if_neg hij, if_neg hij, hsteps, houts]
  exact ⟨rfl, rfl, (Function.update_of_ne hij.symm _ _).trans hsame⟩

end Interleaving

end Lib
