import Mathlib.Algebra.Group.Nat.Defs

/-!
# Four-Level Paging

The address translation of a 64-bit x86 processor with four levels of tables of 512
entries. The walk reads physical memory through `entryAt`, which gives the 64-bit entry at
an address, or nothing where there is no memory.

`walkFrom entryAt k` has `k` levels still to go: at each of them nine bits of the virtual
address select an entry, which is not present, ends the walk with a large page, or points
to the table of the next level. Writing is allowed when every entry on the way allows it.

`IdentityTables` describes tables that map the first `n` GB to themselves by pages of 2 MB.

## Main results

* `IdentityTables.walk_below`: an address below `n` GB is translated to itself.
* `IdentityTables.walk_above`: a canonical address above is not present.
-/

namespace Lib

/-! ### The walk -/

/-- Bit `i` of a page table entry is set. -/
def EntryBit (e i : ℕ) : Prop :=
  e / 2 ^ i % 2 = 1

instance (e i : ℕ) : Decidable (EntryBit e i) :=
  inferInstanceAs (Decidable (_ = _))

/-- The physical address in an entry, aligned to `2 ^ shift`: its bits up to 51. -/
def entryFrame (shift e : ℕ) : ℕ :=
  e / 2 ^ shift % 2 ^ (52 - shift) * 2 ^ shift

/-- How a page walk ends. -/
inductive Walk
  /-- The walk led to an address without memory. -/
  | noMemory
  | notPresent
  /-- A reserved bit was set. -/
  | reserved
  /-- The physical address, the size of the page, and whether it may be written. -/
  | page (addr size : ℕ) (writable : Bool)
deriving DecidableEq

/-- Walk `k` levels of tables down from the one at `table`. -/
def walkFrom (entryAt : ℕ → Option ℕ) (va : ℕ) : ℕ → ℕ → Bool → Walk
  | 0, frame, writable => .page (frame + va % 4096) 4096 writable
  | k + 1, table, writable =>
      match entryAt (table + va / 2 ^ (12 + 9 * k) % 512 * 8) with
      | none => .noMemory
      | some e =>
          let writable := writable && decide (EntryBit e 1)
          if ¬EntryBit e 0 then .notPresent
          -- bit 7 is the page size bit, except in the last level
          else if k ≠ 0 ∧ EntryBit e 7 then
            if k = 3 then .reserved
            else
              .page (entryFrame (12 + 9 * k) e + va % 2 ^ (12 + 9 * k)) (2 ^ (12 + 9 * k)) writable
          else walkFrom entryAt va k (entryFrame 12 e) writable

/-- The translation of `va` with the tables that `cr3` points to. -/
def pageWalk (entryAt : ℕ → Option ℕ) (cr3 va : ℕ) : Walk :=
  walkFrom entryAt va 4 (entryFrame 12 cr3) true

/-- The upper bits of the virtual address repeat bit 47. -/
def Canonical (va : ℕ) : Prop :=
  va < 2 ^ 47 ∨ (2 ^ 64 - 2 ^ 47 ≤ va ∧ va < 2 ^ 64)

section Steps

variable {entryAt : ℕ → Option ℕ} {va k table e : ℕ} {writable : Bool}

theorem walkFrom_notPresent (he : entryAt (table + va / 2 ^ (12 + 9 * k) % 512 * 8) = some e)
    (h : ¬EntryBit e 0) : walkFrom entryAt va (k + 1) table writable = .notPresent := by
  simp only [walkFrom, he, h, not_false_eq_true, if_true]

theorem walkFrom_table (he : entryAt (table + va / 2 ^ (12 + 9 * k) % 512 * 8) = some e)
    (h₀ : EntryBit e 0) (h₁ : EntryBit e 1) (h₇ : ¬EntryBit e 7) :
    walkFrom entryAt va (k + 1) table writable =
      walkFrom entryAt va k (entryFrame 12 e) writable := by
  simp only [walkFrom, he, h₀, h₁, h₇, not_true_eq_false, if_false, and_false, decide_true,
    Bool.and_true]

theorem walkFrom_large (he : entryAt (table + va / 2 ^ (12 + 9 * k) % 512 * 8) = some e)
    (hk : k = 1 ∨ k = 2) (h₀ : EntryBit e 0) (h₁ : EntryBit e 1) (h₇ : EntryBit e 7) :
    walkFrom entryAt va (k + 1) table writable =
      .page (entryFrame (12 + 9 * k) e + va % 2 ^ (12 + 9 * k)) (2 ^ (12 + 9 * k)) writable := by
  have hk₀ : k ≠ 0 := by omega
  have hk₃ : k ≠ 3 := by omega
  simp only [walkFrom, he, h₀, h₁, h₇, hk₀, hk₃, not_true_eq_false, if_false, ne_eq,
    not_false_eq_true, and_true, if_true, decide_true, Bool.and_true]

end Steps

/-! ### Identity maps -/

/-- Tables that map the first `n` GB to themselves: the root at `pml4` has one entry, the
table at `pdpt` has `n`, and the `n` directories from `pd` on map pages of 2 MB. All
entries are present and writable, and the others are zero. -/
structure IdentityTables (entryAt : ℕ → Option ℕ) (pml4 pdpt pd n : ℕ) : Prop where
  le : n ≤ 512
  pdpt_aligned : pdpt % 4096 = 0
  pdpt_lt : pdpt < 2 ^ 52
  pd_aligned : pd % 4096 = 0
  pd_lt : pd + n * 4096 ≤ 2 ^ 52
  root : entryAt pml4 = some (pdpt + 3)
  root_rest : ∀ i, 0 < i → i < 512 → entryAt (pml4 + i * 8) = some 0
  dir : ∀ i < n, entryAt (pdpt + i * 8) = some (pd + i * 4096 + 3)
  dir_rest : ∀ i, n ≤ i → i < 512 → entryAt (pdpt + i * 8) = some 0
  page : ∀ i < n * 512, entryAt (pd + i * 8) = some (i * 2 ^ 21 + 0x83)

namespace IdentityTables

variable {entryAt : ℕ → Option ℕ} {pml4 pdpt pd n va : ℕ}

/-- An entry that points to a table at an aligned address. -/
theorem entry_table {a : ℕ} (haligned : a % 4096 = 0) (hlt : a < 2 ^ 52) :
    EntryBit (a + 3) 0 ∧ EntryBit (a + 3) 1 ∧ ¬EntryBit (a + 3) 7 ∧
      entryFrame 12 (a + 3) = a := by
  simp only [EntryBit, entryFrame]
  omega

/-- An entry that maps the 2 MB page with number `i`. -/
theorem entry_page {i : ℕ} (hi : i < 2 ^ 31) :
    EntryBit (i * 2 ^ 21 + 0x83) 0 ∧ EntryBit (i * 2 ^ 21 + 0x83) 1 ∧
      EntryBit (i * 2 ^ 21 + 0x83) 7 ∧ entryFrame 21 (i * 2 ^ 21 + 0x83) = i * 2 ^ 21 := by
  simp only [EntryBit, entryFrame]
  omega

/-- The walk through the root table, for addresses below 512 GB. -/
theorem walk_root (h : IdentityTables entryAt pml4 pdpt pd n) (hva : va < 2 ^ 39) :
    walkFrom entryAt va 4 pml4 true = walkFrom entryAt va 3 pdpt true := by
  obtain ⟨h₀, h₁, h₇, hframe⟩ := entry_table h.pdpt_aligned h.pdpt_lt
  have hidx : va / 2 ^ (12 + 9 * 3) % 512 = 0 := by omega
  have he : entryAt (pml4 + va / 2 ^ (12 + 9 * 3) % 512 * 8) = some (pdpt + 3) := by
    rw [hidx, Nat.zero_mul, Nat.add_zero, h.root]
  rw [walkFrom_table he h₀ h₁ h₇, hframe]

/-- **Addresses below `n` GB are translated to themselves**, by writable pages of 2 MB. -/
theorem walk_below (h : IdentityTables entryAt pml4 pdpt pd n) (hva : va < n * 2 ^ 30) :
    walkFrom entryAt va 4 pml4 true = .page va (2 ^ 21) true := by
  have hle := h.le
  have hidx : va / 2 ^ (12 + 9 * 2) % 512 = va / 2 ^ 30 := by omega
  have hlt := h.pd_lt
  have hal := h.pd_aligned
  -- the directory of this GB
  obtain ⟨d₀, d₁, d₇, dframe⟩ :=
    entry_table (a := pd + va / 2 ^ 30 * 4096) (by omega) (by omega)
  have hdir : entryAt (pdpt + va / 2 ^ (12 + 9 * 2) % 512 * 8) =
      some (pd + va / 2 ^ 30 * 4096 + 3) := by
    rw [hidx]
    exact h.dir _ (by omega)
  -- its entry is the one of the page with number `va / 2 ^ 21`
  obtain ⟨p₀, p₁, p₇, pframe⟩ := entry_page (i := va / 2 ^ 21) (by omega)
  have hpage : entryAt (pd + va / 2 ^ 30 * 4096 + va / 2 ^ (12 + 9 * 1) % 512 * 8) =
      some (va / 2 ^ 21 * 2 ^ 21 + 0x83) := by
    rw [show pd + va / 2 ^ 30 * 4096 + va / 2 ^ (12 + 9 * 1) % 512 * 8 =
      pd + va / 2 ^ 21 * 8 by omega]
    exact h.page _ (by omega)
  rw [h.walk_root (by omega), walkFrom_table hdir d₀ d₁ d₇, dframe,
    walkFrom_large hpage (Or.inl rfl) p₀ p₁ p₇]
  show Walk.page (entryFrame 21 (va / 2 ^ 21 * 2 ^ 21 + 0x83) + va % 2 ^ 21) (2 ^ 21) true = _
  rw [pframe, Nat.div_add_mod']

/-- **Canonical addresses from `n` GB on are not present.** -/
theorem walk_above (h : IdentityTables entryAt pml4 pdpt pd n) (hva : n * 2 ^ 30 ≤ va)
    (hcan : Canonical va) : walkFrom entryAt va 4 pml4 true = .notPresent := by
  have hzero : ¬EntryBit 0 0 := by decide
  by_cases hlow : va < 2 ^ 39
  · rw [h.walk_root hlow]
    exact walkFrom_notPresent (h.dir_rest _ (by omega) (Nat.mod_lt _ (by decide))) hzero
  · -- beyond the first 512 GB another entry of the root is selected
    have hidx : 0 < va / 2 ^ (12 + 9 * 3) % 512 := by
      rcases hcan with hcan | hcan <;> omega
    exact walkFrom_notPresent (h.root_rest _ hidx (Nat.mod_lt _ (by decide))) hzero

/-- Tables that agree in all of their entries. -/
theorem congr {entryAt' : ℕ → Option ℕ} (h : IdentityTables entryAt pml4 pdpt pd n)
    (hroot : ∀ i < 512, entryAt' (pml4 + i * 8) = entryAt (pml4 + i * 8))
    (hdir : ∀ i < 512, entryAt' (pdpt + i * 8) = entryAt (pdpt + i * 8))
    (hpage : ∀ i < n * 512, entryAt' (pd + i * 8) = entryAt (pd + i * 8)) :
    IdentityTables entryAt' pml4 pdpt pd n where
  le := h.le
  pdpt_aligned := h.pdpt_aligned
  pdpt_lt := h.pdpt_lt
  pd_aligned := h.pd_aligned
  pd_lt := h.pd_lt
  root := (hroot 0 (by decide)).trans h.root
  root_rest i hi hi' := (hroot i hi').trans (h.root_rest i hi hi')
  dir i hi := (hdir i (Nat.lt_of_lt_of_le hi h.le)).trans (h.dir i hi)
  dir_rest i hi hi' := (hdir i hi').trans (h.dir_rest i hi hi')
  page i hi := (hpage i hi).trans (h.page i hi)

end IdentityTables

end Lib
