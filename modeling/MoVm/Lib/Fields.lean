import Mathlib.Data.List.Perm.Basic

/-!
# Records Read From Maps of Fields

A record is read from a list of keys and values by a loop with one slot for each field: the value
of a known key is decoded into its slot, which has to be empty then, and other keys are skipped.

`Fill` is what an entry does to the slot of one key and `Filled` what a whole list has done to it;
`filled_concat` connects the two, so that a loop over any number of slots is settled one slot at a
time. What is left in the end is that the key occurs once (`OneValue`) or at most once
(`AtMostOneValue`), which does not depend on the order of the entries (`oneValue_congr`).
-/

namespace Lib

variable {K X α : Type*} [DecidableEq K]

/-- The values of a key, in order. -/
def valuesOf (k : K) (map : List (K × X)) : List X :=
  (map.filter fun e => e.1 = k).map Prod.snd

@[simp] theorem valuesOf_nil (k : K) : valuesOf k ([] : List (K × X)) = [] := rfl

/-- An entry with the key adds its value. -/
theorem valuesOf_concat_self {k : K} (map : List (K × X)) {e : K × X} (h : e.1 = k) :
    valuesOf k (map ++ [e]) = valuesOf k map ++ [e.2] := by
  rw [valuesOf, List.filter_append, List.map_append, List.filter_cons_of_pos (by simpa using h)]
  rfl

/-- An entry with another key adds nothing. -/
theorem valuesOf_concat_ne {k : K} (map : List (K × X)) {e : K × X} (h : e.1 ≠ k) :
    valuesOf k (map ++ [e]) = valuesOf k map := by
  rw [valuesOf, List.filter_append, List.filter_cons_of_neg (by simpa using h), List.filter_nil,
    List.append_nil, valuesOf]

/-- Values of other keys may be left out. -/
theorem valuesOf_filter {k : K} {known : List K} (hk : k ∈ known) (map : List (K × X)) :
    valuesOf k (map.filter fun e => e.1 ∈ known) = valuesOf k map := by
  rw [valuesOf, List.filter_filter, valuesOf]
  congr 1
  refine List.filter_congr fun e _ => ?_
  by_cases he : e.1 = k
  · simp only [he, hk, decide_true, Bool.and_self]
  · simp only [he, decide_false, Bool.false_and]

/-! ### Slots -/

section Slots

variable (Decodes : X → α → Prop)

/-- What an entry does to the slot of a key: it fills it, if it has the key, and leaves it alone
otherwise. -/
def Fill (k : K) (slot : Option α) (e : K × X) (slot' : Option α) : Prop :=
  if e.1 = k then slot = none ∧ ∃ a, Decodes e.2 a ∧ slot' = some a else slot' = slot

/-- What a list of values has left in a slot that was empty. -/
def Filled : List X → Option α → Prop
  | [], slot => slot = none
  | [v], slot => ∃ a, Decodes v a ∧ slot = some a
  | _ :: _ :: _, _ => False

variable {Decodes}

/-- A slot stays empty only without values. -/
theorem filled_none_iff {vs : List X} : Filled Decodes vs none ↔ vs = [] := by
  rcases vs with _ | ⟨v, _ | ⟨w, vs⟩⟩
  · simp only [Filled]
  · simp only [Filled, reduceCtorEq, and_false, exists_false]
  · simp only [Filled, reduceCtorEq]

/-- A filled slot has had one value, which decodes to what is in it. -/
theorem filled_some_iff {vs : List X} {a : α} :
    Filled Decodes vs (some a) ↔ ∃ v, vs = [v] ∧ Decodes v a := by
  rcases vs with _ | ⟨v, _ | ⟨w, vs⟩⟩
  · simp only [Filled, reduceCtorEq, false_and, exists_false]
  · constructor
    · rintro ⟨b, hb, hab⟩
      obtain rfl := Option.some.inj hab
      exact ⟨v, rfl, hb⟩
    · rintro ⟨w, hw, ha⟩
      obtain rfl := (List.cons.inj hw).1
      exact ⟨a, ha, rfl⟩
  · simp only [Filled, List.cons.injEq, reduceCtorEq, and_false, false_and, exists_false]

/-- An empty slot has had none. -/
theorem Filled.eq_none_iff {vs : List X} {slot : Option α} (h : Filled Decodes vs slot) :
    slot = none ↔ vs = [] := by
  constructor
  · rintro rfl
    exact filled_none_iff.mp h
  · rintro rfl
    exact h

/-- **One more entry**: what a list leaves in a slot is what its last entry makes of what the
others have left. -/
theorem filled_concat {k : K} {map : List (K × X)} {e : K × X} {slot : Option α} :
    Filled Decodes (valuesOf k (map ++ [e])) slot ↔
      ∃ slot₀, Filled Decodes (valuesOf k map) slot₀ ∧ Fill Decodes k slot₀ e slot := by
  by_cases hk : e.1 = k
  · simp only [Fill, if_pos hk, valuesOf_concat_self map hk]
    constructor
    · intro h
      rcases hvs : valuesOf k map with _ | ⟨v, vs⟩
      · rw [hvs] at h
        exact ⟨none, rfl, rfl, h⟩
      · rw [hvs] at h
        cases vs <;> exact h.elim
    · rintro ⟨_, hfilled, rfl, hdec⟩
      rw [filled_none_iff.mp hfilled]
      exact hdec
  · simp only [Fill, if_neg hk, valuesOf_concat_ne map hk]
    exact ⟨fun h => ⟨slot, h, rfl⟩, fun ⟨_, h, heq⟩ => heq ▸ h⟩

end Slots

/-! ### Fields -/

/-- The key occurs once, and its value is read as `a`. -/
def OneValue (k : K) (Decodes : X → α → Prop) (map : List (K × X)) (a : α) : Prop :=
  ∃ v, valuesOf k map = [v] ∧ Decodes v a

/-- The key occurs once, and its value is read as `a`, or not at all, and `a` is the default. -/
def AtMostOneValue (k : K) (Decodes : X → α → Prop) (dflt : α) (map : List (K × X)) (a : α) :
    Prop :=
  (valuesOf k map = [] ∧ a = dflt) ∨ OneValue k Decodes map a

/-- What is made of the slot of an optional field. -/
theorem exists_filled_iff {β : Type*} {k : K} {Decodes : X → α → Prop} (g : Option α → β)
    {map : List (K × X)} {b : β} :
    (∃ slot, Filled Decodes (valuesOf k map) slot ∧ g slot = b) ↔
      AtMostOneValue k (fun v b => ∃ a, Decodes v a ∧ g (some a) = b) (g none) map b := by
  constructor
  · rintro ⟨_ | a, hfilled, rfl⟩
    · exact .inl ⟨filled_none_iff.mp hfilled, rfl⟩
    · obtain ⟨v, hv, ha⟩ := filled_some_iff.mp hfilled
      exact .inr ⟨v, hv, a, ha, rfl⟩
  · rintro (⟨hnil, rfl⟩ | ⟨v, hv, a, ha, rfl⟩)
    · exact ⟨none, filled_none_iff.mpr hnil, rfl⟩
    · exact ⟨some a, filled_some_iff.mpr ⟨v, hv, ha⟩, rfl⟩

/-- The entries of the known keys are the same, up to their order. -/
def SameFields (known : List K) (map map' : List (K × X)) : Prop :=
  (map.filter fun e => e.1 ∈ known).Perm (map'.filter fun e => e.1 ∈ known)

/-- The values of a known key are the same up to their order. -/
theorem SameFields.valuesOf_perm {known : List K} {map map' : List (K × X)}
    (h : SameFields known map map') {k : K} (hk : k ∈ known) :
    (valuesOf k map).Perm (valuesOf k map') := by
  rw [← valuesOf_filter hk map, ← valuesOf_filter hk map', valuesOf, valuesOf]
  exact (h.filter _).map _

/-- Neither the order of the entries nor those of other keys matter. -/
theorem oneValue_congr {known : List K} {map map' : List (K × X)}
    (h : SameFields known map map') {k : K} (hk : k ∈ known) {Decodes : X → α → Prop} {a : α} :
    OneValue k Decodes map a ↔ OneValue k Decodes map' a := by
  have hperm := h.valuesOf_perm hk
  refine exists_congr fun v => and_congr_left fun _ => ⟨fun hv => ?_, fun hv => ?_⟩
  · exact List.perm_singleton.mp (hv ▸ hperm.symm)
  · exact List.perm_singleton.mp (hv ▸ hperm)

/-- A field that may be missing is read alike. -/
theorem atMostOneValue_congr {known : List K} {map map' : List (K × X)}
    (h : SameFields known map map') {k : K} (hk : k ∈ known) {Decodes : X → α → Prop}
    {dflt a : α} :
    AtMostOneValue k Decodes dflt map a ↔ AtMostOneValue k Decodes dflt map' a := by
  have hperm := h.valuesOf_perm hk
  refine or_congr (and_congr_left fun _ => ⟨fun hv => ?_, fun hv => ?_⟩) (oneValue_congr h hk)
  · exact List.perm_nil.mp (hv ▸ hperm.symm)
  · exact List.perm_nil.mp (hv ▸ hperm)

end Lib
