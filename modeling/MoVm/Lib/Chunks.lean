import MoVm.Lib.Bytes

/-!
# Chunked Transfers

Copying a block in pieces of a fixed size, the last one possibly shorter. `chunks n l`
enumerates the pieces of `l` as `(i, piece)`, where piece `i` begins at offset `i * n`.

## Main results

* `mem_chunks`: a piece is not empty and lies inside the block.
* `flatten_chunks_slice`: reading piece by piece reads the block.
* `patch_take_drop`: writing the first piece and the rest writes the block, up to a limit.
-/

namespace Lib

variable {α : Type*}

/-- The pieces of `l`, enumerated from `i`, at most `fuel` of them. -/
def chunksFrom (n : ℕ) : ℕ → ℕ → List α → List (ℕ × List α)
  | 0, _, _ => []
  | _, _, [] => []
  | fuel + 1, i, l => (i, l.take n) :: chunksFrom n fuel (i + 1) (l.drop n)

/-- The pieces of `l` of length `n`, enumerated from zero. -/
def chunks (n : ℕ) (l : List α) : List (ℕ × List α) :=
  chunksFrom n l.length 0 l

/-- An empty list has no chunks. -/
theorem chunksFrom_nil (n fuel i : ℕ) : chunksFrom n fuel i ([] : List α) = [] := by
  cases fuel <;> rfl

/-- The first chunk, and the chunks of the rest. -/
theorem chunksFrom_cons (n fuel i : ℕ) {l : List α} (h : l ≠ []) :
    chunksFrom n (fuel + 1) i l =
      (i, l.take n) :: chunksFrom n fuel (i + 1) (l.drop n) := by
  cases l with
  | nil => exact absurd rfl h
  | cons x l => rfl

/-- Induction over the pieces: the empty block, and a first piece with what is behind it. -/
theorem chunksFrom_induction {n : ℕ} (hn : 0 < n) {motive : ℕ → ℕ → List α → Prop}
    (nil : ∀ fuel i, motive fuel i [])
    (cons : ∀ fuel i l, l ≠ [] → l.length ≤ fuel + 1 → motive fuel (i + 1) (l.drop n) →
      motive (fuel + 1) i l)
    {fuel i : ℕ} {l : List α} (h : l.length ≤ fuel) : motive fuel i l := by
  induction fuel generalizing i l with
  | zero =>
      obtain rfl := List.eq_nil_of_length_eq_zero (Nat.le_zero.mp h)
      exact nil 0 i
  | succ fuel ih =>
      by_cases hl : l = []
      · rw [hl]
        exact nil _ i
      · refine cons fuel i l hl h (ih ?_)
        have := List.length_pos_iff.mpr hl
        rw [List.length_drop]
        omega

/-- No chunk is empty or ends behind the list. -/
theorem mem_chunksFrom {n fuel i : ℕ} (hn : 0 < n) {l : List α} (h : l.length ≤ fuel)
    {c : ℕ × List α} (hc : c ∈ chunksFrom n fuel i l) :
    c.2 ≠ [] ∧ c.1 * n + c.2.length ≤ i * n + l.length := by
  revert hc
  refine chunksFrom_induction (motive := fun fuel i l => c ∈ chunksFrom n fuel i l →
    c.2 ≠ [] ∧ c.1 * n + c.2.length ≤ i * n + l.length) hn ?_ ?_ h
  · intro fuel i hc
    rw [chunksFrom_nil] at hc
    exact absurd hc List.not_mem_nil
  · intro fuel i l hl _ ih hc
    have hpos := List.length_pos_iff.mpr hl
    rw [chunksFrom_cons n fuel i hl] at hc
    rcases List.mem_cons.mp hc with rfl | hc
    · refine ⟨List.ne_nil_of_length_pos ?_, ?_⟩
      · rw [List.length_take]
        omega
      · simp only [List.length_take]
        omega
    · obtain ⟨hne, hle⟩ := ih hc
      refine ⟨hne, ?_⟩
      rw [List.length_drop, Nat.add_mul] at hle
      by_cases hdrop : l.drop n = []
      · rw [hdrop, chunksFrom_nil] at hc
        exact absurd hc List.not_mem_nil
      · have := List.length_pos_iff.mpr hdrop
        rw [List.length_drop] at this
        omega

/-- A piece is not empty and ends inside the block. -/
theorem mem_chunks {n : ℕ} (hn : 0 < n) {l : List α} {c : ℕ × List α}
    (hc : c ∈ chunks n l) : c.2 ≠ [] ∧ c.1 * n + c.2.length ≤ l.length := by
  have h := mem_chunksFrom hn (Nat.le_refl l.length) hc
  rwa [Nat.zero_mul, Nat.zero_add] at h

/-- Reading piece by piece reads the block. -/
theorem flatten_chunks_slice {n : ℕ} (hn : 0 < n) (f : ℕ → α) (a : ℕ) (l : List α) :
    ((chunks n l).map fun c => slice f (a + c.1 * n) c.2.length).flatten =
      slice f a l.length := by
  have h := chunksFrom_induction (motive := fun fuel i l =>
    ((chunksFrom n fuel i l).map fun c => slice f (a + c.1 * n) c.2.length).flatten =
      slice f (a + i * n) l.length) hn ?_ ?_ (i := 0) (Nat.le_refl l.length)
  · rwa [Nat.zero_mul, Nat.add_zero] at h
  · intro fuel i
    rw [chunksFrom_nil]
    rfl
  · intro fuel i l hl _ ih
    rw [chunksFrom_cons n fuel i hl, List.map_cons, List.flatten_cons, ih, List.length_take,
      List.length_drop]
    by_cases hle : l.length ≤ n
    · rw [Nat.min_eq_right hle, Nat.sub_eq_zero_of_le hle, slice_zero, List.append_nil]
    · rw [Nat.min_eq_left (by omega), Nat.add_mul, Nat.one_mul, ← Nat.add_assoc, ← slice_add]
      congr 1
      omega

/-- Writing a block up to a limit that its first piece does not pass. -/
theorem patch_take_drop {n k : ℕ} (f : ℕ → α) (a : ℕ) {l : List α}
    (hk : (l.take n).length ≤ k) :
    patch (patch f a (l.take n)) (a + n) ((l.drop n).take (k - n)) = patch f a (l.take k) := by
  rw [List.length_take] at hk
  by_cases hle : l.length ≤ n
  · rw [List.drop_of_length_le hle, List.take_nil, patch_nil, List.take_of_length_le hle,
      List.take_of_length_le (by omega)]
  · have hlen : (l.take n).length = n := by
      rw [List.length_take]
      omega
    rw [show l.take k = l.take n ++ (l.drop n).take (k - n) by
      rw [← List.take_add, Nat.add_sub_cancel' (by omega)], patch_append, hlen]

end Lib
