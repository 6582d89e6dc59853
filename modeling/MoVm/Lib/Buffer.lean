import Mathlib.Data.List.Basic

/-!
# Filling a Buffer from Its Front

`overlay src buf` copies `src` to the front of the buffer `buf`, as much of it as fits, and
leaves the rest of the buffer as it was. Several sources in a row are `overlays`.

What a reader of the buffer sees depends on what was there before exactly when no source
reaches to its end (`overlays_independent_iff`).
-/

namespace Lib

variable {α : Type*}

/-- Copy `src` to the front of the buffer, as much of it as fits. -/
def overlay (src buf : List α) : List α :=
  src.take buf.length ++ buf.drop src.length

/-- Copying over a buffer keeps its length. -/
@[simp] theorem length_overlay (src buf : List α) : (overlay src buf).length = buf.length := by
  rw [overlay, List.length_append, List.length_take, List.length_drop]
  omega

/-- Copying nothing changes nothing. -/
@[simp] theorem overlay_nil (buf : List α) : overlay [] buf = buf := by
  rw [overlay, List.take_nil, List.nil_append, List.length_nil, List.drop_zero]

/-- A source that reaches to the end of the buffer replaces all of it. -/
theorem overlay_of_le {src buf : List α} (h : buf.length ≤ src.length) :
    overlay src buf = src.take buf.length := by
  rw [overlay, List.drop_eq_nil_of_le h, List.append_nil]

/-- Behind the source the buffer is left alone. -/
theorem getElem?_overlay_of_ge {src buf : List α} {i : ℕ} (h : src.length ≤ i) :
    (overlay src buf)[i]? = buf[i]? := by
  rw [overlay]
  rcases Nat.lt_or_ge i buf.length with hi | hi
  · rw [List.getElem?_append_right (by rw [List.length_take]; omega), List.length_take,
      List.getElem?_drop]
    congr 1
    omega
  · rw [List.getElem?_eq_none (by
        rw [List.length_append, List.length_take, List.length_drop]; omega),
      List.getElem?_eq_none hi]

/-- Copy the sources to the front of the buffer one after the other. -/
def overlays (srcs : List (List α)) (buf : List α) : List α :=
  srcs.foldl (fun buf src => overlay src buf) buf

/-- The first source is copied first. -/
@[simp] theorem overlays_cons (src : List α) (srcs : List (List α)) (buf : List α) :
    overlays (src :: srcs) buf = overlays srcs (overlay src buf) := rfl

/-- Sources that reach the end of the buffer leave nothing of it. -/
theorem overlays_congr_of_reach {srcs : List (List α)} {n : ℕ}
    (hreach : ∃ src ∈ srcs, n ≤ src.length) {buf buf' : List α} (hlen : buf.length = n)
    (hlen' : buf'.length = n) : overlays srcs buf = overlays srcs buf' := by
  induction srcs generalizing buf buf' with
  | nil =>
      obtain ⟨_, hmem, -⟩ := hreach
      exact absurd hmem List.not_mem_nil
  | cons src srcs ih =>
      rw [overlays_cons, overlays_cons]
      obtain ⟨s, hmem, hs⟩ := hreach
      rcases List.mem_cons.mp hmem with rfl | hmem
      · rw [overlay_of_le (by omega), overlay_of_le (by omega), hlen, hlen']
      · exact ih ⟨s, hmem, hs⟩ (by rw [length_overlay, hlen]) (by rw [length_overlay, hlen'])

/-- Behind all sources the buffer is what it was. -/
theorem getElem?_overlays_of_ge {srcs : List (List α)} {i : ℕ}
    (h : ∀ src ∈ srcs, src.length ≤ i) (buf : List α) : (overlays srcs buf)[i]? = buf[i]? := by
  induction srcs generalizing buf with
  | nil => rfl
  | cons src srcs ih =>
      rw [overlays_cons, ih fun s hs => h s (List.mem_cons_of_mem _ hs),
        getElem?_overlay_of_ge (h src List.mem_cons_self)]

/-- **What is left in a buffer shows through** exactly when no source reaches to its end. Two
elements are needed for a buffer to show anything. -/
theorem overlays_independent_iff {x y : α} (hxy : x ≠ y) (srcs : List (List α)) {n : ℕ}
    (hn : 0 < n) :
    (∀ buf buf' : List α, buf.length = n → buf'.length = n →
      overlays srcs buf = overlays srcs buf') ↔ ∃ src ∈ srcs, n ≤ src.length := by
  constructor
  · intro h
    by_contra hshort
    have hshort' : ∀ src ∈ srcs, src.length ≤ n - 1 := by
      intro src hmem
      have hlt : ¬n ≤ src.length := fun hle => hshort ⟨src, hmem, hle⟩
      omega
    have hlast := h (List.replicate n x) (List.replicate n y) List.length_replicate
      List.length_replicate
    have hget := congrArg (fun l => l[n - 1]?) hlast
    simp only [getElem?_overlays_of_ge hshort', List.getElem?_replicate,
      if_pos (Nat.sub_lt hn Nat.one_pos)] at hget
    exact hxy (Option.some.inj hget)
  · rintro hreach buf buf' hlen hlen'
    exact overlays_congr_of_reach hreach hlen hlen'

end Lib
