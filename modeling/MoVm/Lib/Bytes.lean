import Mathlib.Algebra.Group.Nat.Defs
import Mathlib.Data.List.Find
import Mathlib.Data.List.GetD

/-!
# Byte Sequences, Address Spaces and Flat Files

This module is the general layer on bytes: little-endian numbers, address spaces that
are overwritten a block at a time, and files seen as flat arrays. Nothing in it refers
to a particular machine or device.

An **address space** is a function `ℕ → α`. `slice f a n` reads `n` consecutive cells
and `patch f a bs` overwrites a block of them. A sequence of blocks is replayed by
`patches`, and `lastWrite` names the byte that survives at an address: the replay
agrees with it everywhere (`patches_apply`), which is the last-writer-wins law.

A **flat file** is a `List UInt8`. `store` writes a block at an offset and fills a gap
past the end with zeros, as a sparse file does; `load` reads a block. The zero-padded
view of a file turns `store` into `patch` (`getD_store`), so every fact about files
follows from the one about address spaces plus the length law `length_store`.

## Main results

* `patch_append`, `slice_patch_self`: blocks written one after the other are one
  block, and a block reads back as it was written.
* `IsCString.unique`: an address holds at most one NUL-terminated string.
* `patches_apply`, `lastWrite_eq_find`: replaying blocks in order is last-writer-wins.
* `getD_store`, `length_store`, `load_eq_slice`: files are address spaces.
-/

namespace Lib

/-! ### Little-endian numbers -/

/-- The number with the given little-endian bytes. -/
def leNat : List UInt8 → ℕ
  | [] => 0
  | b :: bs => b.toNat + 256 * leNat bs

/-- The `w` little-endian bytes of `n`; what does not fit in `w` bytes is dropped. -/
def leBytes : ℕ → ℕ → List UInt8
  | 0, _ => []
  | w + 1, n => UInt8.ofNat (n % 256) :: leBytes w (n / 256)

/-- A number of `w` bytes has `w` bytes. -/
@[simp] theorem length_leBytes (w n : ℕ) : (leBytes w n).length = w := by
  induction w generalizing n with
  | zero => rfl
  | succ w ih => simp only [leBytes, List.length_cons, ih]

/-- The value of two byte strings, one behind the other. -/
theorem leNat_append (bs cs : List UInt8) :
    leNat (bs ++ cs) = leNat bs + 256 ^ bs.length * leNat cs := by
  induction bs with
  | nil => simp only [leNat, List.nil_append, List.length_nil, Nat.pow_zero, Nat.one_mul,
      Nat.zero_add]
  | cons b bs ih =>
      rw [List.cons_append, leNat, leNat, ih, List.length_cons, Nat.pow_succ, Nat.mul_add,
        ← Nat.mul_assoc, Nat.mul_comm 256, Nat.add_assoc, Nat.mul_comm 256]

/-- The value of a byte string is bounded by its length. -/
theorem leNat_lt (bs : List UInt8) : leNat bs < 256 ^ bs.length := by
  induction bs with
  | nil => simp only [leNat, List.length_nil, Nat.pow_zero, Nat.lt_one_iff]
  | cons b bs ih =>
      have hb : b.toNat < 256 := b.toNat_lt
      rw [leNat, List.length_cons, Nat.pow_succ]
      omega

/-- Decoding what was encoded gives the number back, up to the width. -/
theorem leNat_leBytes (w n : ℕ) : leNat (leBytes w n) = n % 256 ^ w := by
  induction w generalizing n with
  | zero => rw [leBytes, leNat, Nat.pow_zero, Nat.mod_one]
  | succ w ih =>
      have hbyte : (UInt8.ofNat (n % 256)).toNat = n % 256 := by
        rw [UInt8.toNat_ofNat']
        exact Nat.mod_mod n 256
      rw [leBytes, leNat, ih, hbyte, Nat.pow_succ, Nat.mul_comm (256 ^ w), Nat.mod_mul]

/-- A number that fits is read back. -/
theorem leNat_leBytes_of_lt {w n : ℕ} (h : n < 256 ^ w) : leNat (leBytes w n) = n := by
  rw [leNat_leBytes, Nat.mod_eq_of_lt h]

/-! ### Address spaces -/

variable {α : Type*}

/-- The `n` cells of `f` from address `a` on. -/
def slice (f : ℕ → α) (a n : ℕ) : List α :=
  (List.range n).map fun i => f (a + i)

/-- `f` with the block `bs` written at address `a`. -/
def patch (f : ℕ → α) (a : ℕ) (bs : List α) : ℕ → α := fun x =>
  if a ≤ x then bs.getD (x - a) (f x) else f x

/-- A slice has the length it was asked for. -/
@[simp] theorem length_slice (f : ℕ → α) (a n : ℕ) : (slice f a n).length = n := by
  simp only [slice, List.length_map, List.length_range]

/-- The bytes of a slice. -/
theorem getElem?_slice (f : ℕ → α) {a n i : ℕ} (h : i < n) :
    (slice f a n)[i]? = some (f (a + i)) := by
  simp only [slice, List.getElem?_map, List.getElem?_range h, Option.map_some]

@[simp] theorem slice_zero (f : ℕ → α) (a : ℕ) : slice f a 0 = [] := rfl

/-- A slice depends on the bytes it holds. -/
theorem slice_congr {f g : ℕ → α} {a n : ℕ} (h : ∀ i < n, f (a + i) = g (a + i)) :
    slice f a n = slice g a n := by
  apply List.map_congr_left
  intro i hi
  exact h i (List.mem_range.mp hi)

/-- A slice can be cut in two. -/
theorem slice_add (f : ℕ → α) (a n k : ℕ) :
    slice f a (n + k) = slice f a n ++ slice f (a + n) k := by
  simp only [slice, List.range_add, List.map_append, List.map_map, Function.comp_def,
    Nat.add_assoc]

/-- A part of a slice. -/
theorem take_drop_slice {f : ℕ → α} {a n o k : ℕ} (h : o + k ≤ n) :
    ((slice f a n).drop o).take k = slice f (a + o) k := by
  obtain ⟨j, rfl⟩ := Nat.exists_eq_add_of_le h
  rw [slice_add, slice_add, List.append_assoc, List.drop_left' (length_slice f a o),
    List.take_left' (length_slice f (a + o) k)]

/-- In front of its block a patch changes nothing. -/
theorem patch_of_lt {f : ℕ → α} {a x : ℕ} (bs : List α) (h : x < a) :
    patch f a bs x = f x :=
  if_neg (by omega)

/-- Nor does it behind its block. -/
theorem patch_of_ge {f : ℕ → α} {a x : ℕ} {bs : List α} (h : a + bs.length ≤ x) :
    patch f a bs x = f x := by
  rw [patch, if_pos (by omega), List.getD_eq_default _ _ (by omega)]

/-- In its block a patch has the bytes of the block. -/
theorem patch_of_mem {f : ℕ → α} {a i : ℕ} {bs : List α} (h : i < bs.length) :
    patch f a bs (a + i) = bs[i] := by
  rw [patch, if_pos (by omega), Nat.add_sub_cancel_left, List.getD_eq_getElem _ _ h]

/-- Outside its block a patch changes nothing. -/
theorem patch_of_notMem {f : ℕ → α} {a x : ℕ} {bs : List α}
    (h : ¬(a ≤ x ∧ x < a + bs.length)) : patch f a bs x = f x := by
  by_cases hx : x < a
  · exact patch_of_lt bs hx
  · exact patch_of_ge (by omega)

/-- An empty block changes nothing. -/
@[simp] theorem patch_nil (f : ℕ → α) (a : ℕ) : patch f a [] = f := by
  funext x
  exact patch_of_notMem (by simp only [List.length_nil]; omega)

/-- Two blocks written one behind the other are one block. -/
theorem patch_append (f : ℕ → α) (a : ℕ) (bs cs : List α) :
    patch f a (bs ++ cs) = patch (patch f a bs) (a + bs.length) cs := by
  funext x
  by_cases hlt : x < a
  · rw [patch_of_lt _ hlt, patch_of_lt _ (by omega), patch_of_lt _ hlt]
  obtain ⟨i, rfl⟩ : ∃ i, x = a + i := ⟨x - a, by omega⟩
  by_cases hb : i < bs.length
  · rw [patch_of_mem (by rw [List.length_append]; omega), patch_of_lt _ (by omega),
      patch_of_mem hb, List.getElem_append_left hb]
  by_cases hc : i < bs.length + cs.length
  · obtain ⟨j, rfl⟩ : ∃ j, i = bs.length + j := ⟨i - bs.length, by omega⟩
    rw [patch_of_mem (by rw [List.length_append]; omega), ← Nat.add_assoc,
      patch_of_mem (by omega : j < cs.length), List.getElem_append_right (by omega)]
    simp only [Nat.add_sub_cancel_left]
  · rw [patch_of_ge (by rw [List.length_append]; omega), patch_of_ge (by omega),
      patch_of_ge (by omega)]

/-- A block reads back as it was written. -/
theorem slice_patch_self (f : ℕ → α) (a : ℕ) (bs : List α) :
    slice (patch f a bs) a bs.length = bs := by
  apply List.ext_getElem (length_slice _ _ _)
  intro i hi hi'
  simp only [slice, List.getElem_map, List.getElem_range, patch_of_mem hi']

/-- Reading a part of a block that was written. -/
theorem slice_patch_inside {f : ℕ → α} {a i n : ℕ} {bs : List α} (h : i + n ≤ bs.length) :
    slice (patch f a bs) (a + i) n = (bs.drop i).take n := by
  apply List.ext_getElem
  · rw [length_slice, List.length_take, List.length_drop]
    omega
  · intro j hj hj'
    rw [length_slice] at hj
    simp only [slice, List.getElem_map, List.getElem_range, List.getElem_take, List.getElem_drop]
    rw [Nat.add_assoc, patch_of_mem (by omega : i + j < bs.length)]

/-- Reading a block that a patch does not touch. -/
theorem slice_patch_of_disjoint {f : ℕ → α} {a b n : ℕ} {bs : List α}
    (h : b + n ≤ a ∨ a + bs.length ≤ b) : slice (patch f a bs) b n = slice f b n := by
  apply slice_congr
  intro i hi
  exact patch_of_notMem (by omega)

/-- Patching in a slice of another address space copies that block. -/
theorem patch_slice (f g : ℕ → α) (a n x : ℕ) :
    patch f a (slice g a n) x = if a ≤ x ∧ x < a + n then g x else f x := by
  by_cases hx : a ≤ x ∧ x < a + n
  · obtain ⟨i, rfl⟩ : ∃ i, x = a + i := ⟨x - a, by omega⟩
    rw [if_pos hx, patch_of_mem (by rw [length_slice]; omega)]
    simp only [slice, List.getElem_map, List.getElem_range]
  · rw [if_neg hx, patch_of_notMem (by rw [length_slice]; exact hx)]

/-- The NUL-terminated string at an address. -/
structure IsCString (f : ℕ → UInt8) (a : ℕ) (s : List UInt8) : Prop where
  noNul : 0 ∉ s
  bytes : slice f a s.length = s
  nul : f (a + s.length) = 0

/-- A string does not end inside another one at the same address. -/
theorem IsCString.length_le {f : ℕ → UInt8} {a : ℕ} {s t : List UInt8} (hs : IsCString f a s)
    (ht : IsCString f a t) : s.length ≤ t.length := by
  refine Nat.le_of_not_lt fun hlt => ?_
  have hget : (slice f a s.length)[t.length]? = some (f (a + t.length)) := getElem?_slice f hlt
  rw [hs.bytes, ht.nul] at hget
  exact hs.noNul (List.mem_of_getElem? hget)

/-- There is one string at an address. -/
theorem IsCString.unique {f : ℕ → UInt8} {a : ℕ} {s t : List UInt8} (hs : IsCString f a s)
    (ht : IsCString f a t) : s = t := by
  rw [← hs.bytes, ← ht.bytes, Nat.le_antisymm (hs.length_le ht) (ht.length_le hs)]

/-- A string is read from its address on. -/
theorem IsCString.congr {f g : ℕ → UInt8} {a : ℕ} {s : List UInt8} (h : IsCString f a s)
    (hfg : ∀ x, a ≤ x → g x = f x) : IsCString g a s where
  noNul := h.noNul
  bytes := (slice_congr fun i _ => hfg _ (Nat.le_add_right a i)).trans h.bytes
  nul := (hfg _ (Nat.le_add_right a s.length)).trans h.nul

/-! ### Replaying blocks -/

/-- `f` after the blocks `ws` have been written in order. -/
def patches (f : ℕ → α) (ws : List (ℕ × List α)) : ℕ → α :=
  ws.foldl (fun g w => patch g w.1 w.2) f

/-- The cell the blocks `ws`, written in order, leave at `x`: that of the last block
covering `x`, if any does. -/
def lastWrite : List (ℕ × List α) → ℕ → Option α
  | [], _ => none
  | w :: ws, x => (lastWrite ws x).or (if w.1 ≤ x then w.2[x - w.1]? else none)

@[simp] theorem patches_nil (f : ℕ → α) : patches f [] = f := rfl

@[simp] theorem patches_cons (f : ℕ → α) (w : ℕ × List α) (ws : List (ℕ × List α)) :
    patches f (w :: ws) = patches (patch f w.1 w.2) ws := rfl

/-- Blocks are written in order. -/
theorem patches_append (f : ℕ → α) (ws vs : List (ℕ × List α)) :
    patches f (ws ++ vs) = patches (patches f ws) vs :=
  List.foldl_append

/-- Blocks that all avoid an address leave it alone. -/
theorem patches_of_notMem {f : ℕ → α} {ws : List (ℕ × List α)} {x : ℕ}
    (h : ∀ w ∈ ws, ¬(w.1 ≤ x ∧ x < w.1 + w.2.length)) : patches f ws x = f x := by
  induction ws generalizing f with
  | nil => rfl
  | cons w ws ih =>
      rw [patches_cons, ih fun v hv => h v (List.mem_cons_of_mem _ hv),
        patch_of_notMem (h w List.mem_cons_self)]

/-- Reading a range that no block touches. -/
theorem slice_patches_of_disjoint {f : ℕ → α} {ws : List (ℕ × List α)} {b n : ℕ}
    (h : ∀ w ∈ ws, b + n ≤ w.1 ∨ w.1 + w.2.length ≤ b) :
    slice (patches f ws) b n = slice f b n := by
  apply slice_congr
  intro i hi
  refine patches_of_notMem fun w hw => ?_
  have := h w hw
  omega

/-- A block reads back as it was written when no later block touches it. -/
theorem slice_patches_of_last {f : ℕ → α} {ws vs : List (ℕ × List α)} {w : ℕ × List α}
    (h : ∀ v ∈ vs, w.1 + w.2.length ≤ v.1 ∨ v.1 + v.2.length ≤ w.1) :
    slice (patches f (ws ++ w :: vs)) w.1 w.2.length = w.2 := by
  rw [patches_append, patches_cons, slice_patches_of_disjoint h, slice_patch_self]

/-- Of blocks that do not meet, each reads back as it was written. -/
theorem slice_patches_of_pairwise {f : ℕ → α} {ws : List (ℕ × List α)} {w : ℕ × List α}
    (hdisjoint : ws.Pairwise fun v w => v.1 + v.2.length ≤ w.1 ∨ w.1 + w.2.length ≤ v.1)
    (hw : w ∈ ws) : slice (patches f ws) w.1 w.2.length = w.2 := by
  obtain ⟨us, vs, rfl⟩ := List.append_of_mem hw
  obtain ⟨-, hvs, -⟩ := List.pairwise_append.mp hdisjoint
  exact slice_patches_of_last (List.pairwise_cons.mp hvs).1

/-- Of blocks in address order, each reads back as it was written. -/
theorem slice_patches_of_mem {f : ℕ → α} {ws : List (ℕ × List α)} {w : ℕ × List α}
    (hsorted : ws.Pairwise fun v w => v.1 + v.2.length ≤ w.1) (hw : w ∈ ws) :
    slice (patches f ws) w.1 w.2.length = w.2 :=
  slice_patches_of_pairwise (hsorted.imp Or.inl) hw

/-- Blocks copied from one and the same source leave its cell wherever one of them
reaches. -/
theorem patches_slices {f g : ℕ → α} {ws : List (ℕ × List α)} {x : ℕ}
    (hws : ∀ w ∈ ws, w.2 = slice g w.1 w.2.length)
    (hx : f x = g x ∨ ∃ w ∈ ws, w.1 ≤ x ∧ x < w.1 + w.2.length) :
    patches f ws x = g x := by
  induction ws generalizing f with
  | nil =>
      rcases hx with hx | ⟨w, hw, -⟩
      · exact hx
      · exact absurd hw List.not_mem_nil
  | cons w ws ih =>
      rw [patches_cons]
      refine ih (fun v hv => hws v (List.mem_cons_of_mem _ hv)) ?_
      rw [hws w List.mem_cons_self, patch_slice]
      rcases hx with hx | ⟨v, hv, hvx⟩
      · left
        split
        · rfl
        · exact hx
      · rcases List.mem_cons.mp hv with rfl | hv
        · exact Or.inl (if_pos hvx)
        · exact Or.inr ⟨v, hv, hvx⟩

/-- **Last writer wins**: a replay leaves at every address the cell of the last block
that covers it, and the old cell where no block does. -/
theorem patches_apply (f : ℕ → α) (ws : List (ℕ × List α)) (x : ℕ) :
    patches f ws x = (lastWrite ws x).getD (f x) := by
  induction ws generalizing f with
  | nil => rfl
  | cons w ws ih =>
      rw [patches_cons, ih, lastWrite]
      cases lastWrite ws x with
      | some b => rfl
      | none =>
          simp only [Option.getD_none, Option.none_or, patch]
          split
          · rw [List.getD_eq_getElem?_getD]
          · rfl

/-- The last write at an address is found by searching the blocks from the end. -/
theorem lastWrite_eq_find (ws : List (ℕ × List α)) (x : ℕ) :
    lastWrite ws x = (ws.reverse.find? fun w => w.1 ≤ x ∧ x < w.1 + w.2.length).bind
      fun w => w.2[x - w.1]? := by
  induction ws with
  | nil => rfl
  | cons w ws ih =>
      rw [lastWrite, ih, List.reverse_cons, List.find?_append]
      cases hfind : ws.reverse.find? fun w => w.1 ≤ x ∧ x < w.1 + w.2.length with
      | some v =>
          -- the block that was found reaches the address, so it has a cell there
          have hv := List.find?_some hfind
          rw [decide_eq_true_eq] at hv
          rw [Option.some_or, Option.bind_some, List.getElem?_eq_getElem (by omega),
            Option.some_or]
      | none =>
          rw [Option.bind_none, Option.none_or, Option.none_or, List.find?_singleton]
          by_cases hw : w.1 ≤ x ∧ x < w.1 + w.2.length
          · rw [if_pos hw.1, if_pos (decide_eq_true hw), Option.bind_some]
          · simp only [hw, decide_false, Bool.false_eq_true, if_false, Option.bind_none]
            split
            · exact List.getElem?_eq_none (by omega)
            · rfl

/-! ### Flat files -/

/-- `n` bytes of the file `bs` from offset `off` on; short at the end of the file. -/
def load (bs : List UInt8) (off n : ℕ) : List UInt8 :=
  (bs.drop off).take n

/-- The file `bs` with `data` written at offset `off`. A write past the end fills the
gap with zeros; writing nothing does nothing, wherever it is aimed. -/
def store (bs : List UInt8) (off : ℕ) (data : List UInt8) : List UInt8 :=
  if data = [] then bs
  else bs.take off ++ List.replicate (off - bs.length) 0 ++ data ++ bs.drop (off + data.length)

@[simp] theorem store_nil (bs : List UInt8) (off : ℕ) : store bs off [] = bs := rfl

/-- A store makes the file longer where it reaches past the end. -/
theorem length_store (bs : List UInt8) (off : ℕ) (data : List UInt8) :
    (store bs off data).length =
      if data = [] then bs.length else max bs.length (off + data.length) := by
  by_cases h : data = []
  · rw [store, if_pos h, if_pos h]
  · rw [store, if_neg h, if_neg h]
    simp only [List.length_append, List.length_take, List.length_replicate,
      List.length_drop]
    omega

/-- A write that stays inside the file keeps its length. -/
theorem length_store_of_le {bs : List UInt8} {off : ℕ} {data : List UInt8}
    (h : off + data.length ≤ bs.length) : (store bs off data).length = bs.length := by
  rw [length_store]
  split
  · rfl
  · omega

/-- Seen through its zero-padded view, a file is an address space and `store` is
`patch`. -/
theorem getD_store (bs : List UInt8) (off : ℕ) (data : List UInt8) (o : ℕ) :
    (store bs off data).getD o 0 = patch (fun i => bs.getD i 0) off data o := by
  by_cases h : data = []
  · rw [h, store_nil, patch_nil]
  rw [store, if_neg h]
  simp only [List.getD_eq_getElem?_getD]
  by_cases hlt : o < off
  · rw [patch_of_lt _ hlt, List.append_assoc, List.append_assoc]
    by_cases hb : o < bs.length
    · rw [List.getElem?_append_left (by rw [List.length_take]; omega),
        List.getElem?_take_of_lt hlt]
    · rw [List.getElem?_append_right (by rw [List.length_take]; omega),
        List.getElem?_append_left
          (by rw [List.length_replicate, List.length_take]; omega),
        List.getElem?_replicate, if_pos (by rw [List.length_take]; omega),
        List.getElem?_eq_none (by omega : bs.length ≤ o)]
      rfl
  obtain ⟨i, rfl⟩ : ∃ i, o = off + i := ⟨o - off, by omega⟩
  have hpre : (bs.take off ++ List.replicate (off - bs.length) 0).length = off := by
    rw [List.length_append, List.length_take, List.length_replicate]
    omega
  rw [List.append_assoc, List.getElem?_append_right (by omega), hpre,
    Nat.add_sub_cancel_left]
  by_cases hi : i < data.length
  · rw [patch_of_mem hi, List.getElem?_append_left hi, List.getElem?_eq_getElem hi]
    rfl
  · rw [patch_of_ge (by omega), List.getElem?_append_right (by omega),
      List.getElem?_drop]
    congr 2
    omega

/-- A block inside the file is a slice of its view. -/
theorem load_eq_slice {bs : List UInt8} {off n : ℕ} (h : off + n ≤ bs.length) :
    load bs off n = slice (fun i => bs.getD i 0) off n := by
  apply List.ext_getElem
  · rw [load, List.length_take, List.length_drop, length_slice]
    omega
  · intro i hi hi'
    rw [length_slice] at hi'
    simp only [load, slice, List.getElem_take, List.getElem_drop, List.getElem_map,
      List.getElem_range]
    rw [List.getD_eq_getElem _ _ (by omega)]

end Lib
