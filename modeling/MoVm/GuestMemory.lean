import Mathlib.Data.List.Pairwise
import MoVm.Host
import MoVm.Lib.Loop

/-!
# Guest Physical Memory

Guest memory is a list of disjoint regions of guest-physical addresses together with
the bytes behind them. A `Layout` carries the invariant that `vm-memory` enforces when
it maps the regions: they are non-empty, end below `2 ^ 64` and do not overlap.

The accesses themselves are those of the `vm-memory` crate and enter as a parameter. A
`VmMemory` is a choice of these operations with what is documented about them:

* `read_slice` fills a buffer with guest bytes up to the first address that no region
  backs and succeeds exactly when the whole range is backed;
* `write_slice` never touches a byte outside its range, and writes all of it when it
  succeeds, also across adjacent regions;
* `find_region` finds the region that contains an address;
* a region's own `read_slice` and `write_slice` copy exactly when the range is inside
  the region; past its end the write copies what fits and fails.

Whether an access of no bytes at an unbacked address succeeds is left open; `EmptyWrites` is the
assumption that this depends on the layout and the address only.

`VmMemory.mmap` is the byte-by-byte implementation of this interface. The last section
is `memory.rs`: the layout the hypervisor asks for and its registration with KVM.
-/

open Lib

namespace MoVm

/-! ### Layouts -/

/-- One mapped region of guest-physical addresses. -/
structure GuestRegion where
  start : ℕ
  len : ℕ
  len_pos : 0 < len
  end_lt : start + len < 2 ^ 64
deriving DecidableEq

/-- The region backs address `a`. -/
def GuestRegion.Contains (r : GuestRegion) (a : ℕ) : Prop :=
  r.start ≤ a ∧ a < r.start + r.len

instance (r : GuestRegion) (a : ℕ) : Decidable (r.Contains a) :=
  inferInstanceAs (Decidable (_ ∧ _))

/-- The two regions share no address. -/
def GuestRegion.Disjoint (r s : GuestRegion) : Prop :=
  r.start + r.len ≤ s.start ∨ s.start + s.len ≤ r.start

instance (r s : GuestRegion) : Decidable (r.Disjoint s) :=
  inferInstanceAs (Decidable (_ ∨ _))

instance : Std.Symm GuestRegion.Disjoint := ⟨fun _ _ h => h.symm⟩

/-- The regions of a guest memory, in the order in which they are iterated. -/
structure Layout where
  regions : List GuestRegion
  disjoint : regions.Pairwise GuestRegion.Disjoint
deriving DecidableEq

/-- Some region backs address `a`. -/
def Layout.Backed (L : Layout) (a : ℕ) : Prop :=
  ∃ r ∈ L.regions, r.Contains a

instance (L : Layout) (a : ℕ) : Decidable (L.Backed a) :=
  inferInstanceAs (Decidable (∃ r ∈ L.regions, r.Contains a))

/-- All of `[a, a + n)` is backed. -/
def Layout.Covers (L : Layout) (a n : ℕ) : Prop :=
  ∀ i < n, L.Backed (a + i)

instance (L : Layout) (a n : ℕ) : Decidable (L.Covers a n) :=
  inferInstanceAs (Decidable (∀ i < n, L.Backed (a + i)))

/-- An address lies in at most one region. -/
theorem Layout.region_unique (L : Layout) {r s : GuestRegion} {a : ℕ}
    (hr : r ∈ L.regions) (hs : s ∈ L.regions) (hra : r.Contains a) (hsa : s.Contains a) :
    r = s := by
  by_contra hne
  have hdis := L.disjoint.forall hr hs hne
  obtain ⟨h1, h2⟩ := hra
  obtain ⟨h3, h4⟩ := hsa
  rcases hdis with h | h <;> omega

/-- Backed addresses are 64-bit addresses. -/
theorem Layout.Backed.lt {L : Layout} {a : ℕ} (h : L.Backed a) : a < 2 ^ 64 := by
  obtain ⟨r, -, -, hlt⟩ := h
  have := r.end_lt
  omega

/-- A range inside one region is covered. -/
theorem Layout.covers_of_mem {L : Layout} {r : GuestRegion} (hr : r ∈ L.regions) {a n : ℕ}
    (hlo : r.start ≤ a) (hhi : a + n ≤ r.start + r.len) : L.Covers a n := fun i hi =>
  ⟨r, hr, by omega, by omega⟩

theorem Layout.Covers.mono {L : Layout} {a n b k : ℕ} (h : L.Covers a n) (hlo : a ≤ b)
    (hhi : b + k ≤ a + n) : L.Covers b k := by
  intro i hi
  have := h (b + i - a) (by omega)
  rwa [show a + (b + i - a) = b + i by omega] at this

/-- A guest memory: a layout and the byte at each address. Only the bytes at backed
addresses mean anything. -/
structure GuestMemory where
  layout : Layout
  bytes : ℕ → UInt8

/-- The memory with a block written at an address. -/
def GuestMemory.withBlock (m : GuestMemory) (a : ℕ) (bs : List UInt8) : GuestMemory :=
  { m with bytes := patch m.bytes a bs }

@[simp] theorem GuestMemory.layout_withBlock (m : GuestMemory) (a : ℕ) (bs : List UInt8) :
    (m.withBlock a bs).layout = m.layout := rfl

@[simp] theorem GuestMemory.bytes_withBlock (m : GuestMemory) (a : ℕ) (bs : List UInt8) :
    (m.withBlock a bs).bytes = patch m.bytes a bs := rfl

/-! ### The accesses of `vm-memory` -/

/-- The operations of the `vm-memory` crate that the hypervisor uses, with their
documented behaviour. Errors are carried by their display text. -/
structure VmMemory where
  /-- `GuestMemoryMmap::from_ranges`. -/
  fromRanges : List (ℕ × ℕ) → Except String GuestMemory
  /-- `mem.read_slice(&mut buf, addr)`: the buffer afterwards, and the result. -/
  readSlice : GuestMemory → ℕ → List UInt8 → List UInt8 × Except String Unit
  /-- `mem.write_slice(&bytes, addr)`. -/
  writeSlice : GuestMemory → ℕ → List UInt8 → GuestMemory × Except String Unit
  /-- `mem.find_region(addr)`. -/
  findRegion : GuestMemory → ℕ → Option GuestRegion
  /-- `region.read_slice(&mut buf, MemoryRegionAddress(off))`. -/
  regionReadSlice : GuestMemory → GuestRegion → ℕ → List UInt8 →
    List UInt8 × Except String Unit
  /-- `region.write_slice(&bytes, MemoryRegionAddress(off))`. -/
  regionWriteSlice : GuestMemory → GuestRegion → ℕ → List UInt8 →
    GuestMemory × Except String Unit
  fromRanges_regions : ∀ {ranges m}, fromRanges ranges = .ok m →
    m.layout.regions.map (fun r => (r.start, r.len)) = ranges
  readSlice_length : ∀ m a buf, (readSlice m a buf).1.length = buf.length
  readSlice_get : ∀ m a buf i, i < buf.length → (readSlice m a buf).1[i]? =
    if m.layout.Covers a (i + 1) then some (m.bytes (a + i)) else buf[i]?
  readSlice_ok_iff : ∀ m a buf, buf ≠ [] →
    ((readSlice m a buf).2 = .ok () ↔ m.layout.Covers a buf.length)
  writeSlice_layout : ∀ m a bs, (writeSlice m a bs).1.layout = m.layout
  writeSlice_frame : ∀ m a bs x, ¬(a ≤ x ∧ x < a + bs.length) →
    (writeSlice m a bs).1.bytes x = m.bytes x
  /-- A write that leaves the memory has written what comes before the gap. -/
  writeSlice_get : ∀ m a bs i (hi : i < bs.length), (writeSlice m a bs).1.bytes (a + i) =
    if m.layout.Covers a (i + 1) then bs[i] else m.bytes (a + i)
  writeSlice_ok_iff : ∀ m a bs, bs ≠ [] →
    ((writeSlice m a bs).2 = .ok () ↔ m.layout.Covers a bs.length)
  findRegion_iff : ∀ m a r, findRegion m a = some r ↔ r ∈ m.layout.regions ∧ r.Contains a
  regionReadSlice_inside : ∀ {m r off buf}, r ∈ m.layout.regions → buf ≠ [] →
    off + buf.length ≤ r.len →
    regionReadSlice m r off buf = (slice m.bytes (r.start + off) buf.length, .ok ())
  regionWriteSlice_layout : ∀ m r off bs, (regionWriteSlice m r off bs).1.layout = m.layout
  regionWriteSlice_bytes : ∀ {m r off bs}, r ∈ m.layout.regions → bs ≠ [] →
    (regionWriteSlice m r off bs).1.bytes =
      patch m.bytes (r.start + off) (bs.take (r.len - off))
  regionWriteSlice_ok_iff : ∀ {m r off bs}, r ∈ m.layout.regions → bs ≠ [] →
    ((regionWriteSlice m r off bs).2 = .ok () ↔ off + bs.length ≤ r.len)

namespace VmMemory

variable (vm : VmMemory)

/-- Reading a covered range fills the buffer with its bytes. -/
theorem readSlice_of_covers {m : GuestMemory} {a : ℕ} {buf : List UInt8}
    (h : m.layout.Covers a buf.length) :
    (vm.readSlice m a buf).1 = slice m.bytes a buf.length := by
  have hlen := vm.readSlice_length m a buf
  apply List.ext_getElem?
  intro i
  by_cases hi : i < buf.length
  · rw [vm.readSlice_get m a buf i hi, if_pos (h.mono (Nat.le_refl a) (by omega)),
      getElem?_slice _ hi]
  · rw [List.getElem?_eq_none (by omega), List.getElem?_eq_none (by rw [length_slice]; omega)]

/-- Writing no bytes changes no byte. -/
theorem writeSlice_nil_bytes (m : GuestMemory) (a : ℕ) :
    (vm.writeSlice m a []).1.bytes = m.bytes := by
  funext x
  exact vm.writeSlice_frame m a [] x (by simp only [List.length_nil]; omega)

/-- Writing a covered range patches it. -/
theorem writeSlice_of_covers {m : GuestMemory} {a : ℕ} {bs : List UInt8}
    (h : m.layout.Covers a bs.length) :
    (vm.writeSlice m a bs).1.bytes = patch m.bytes a bs := by
  funext x
  by_cases hx : a ≤ x ∧ x < a + bs.length
  · obtain ⟨i, rfl⟩ : ∃ i, x = a + i := ⟨x - a, by omega⟩
    have hi : i < bs.length := by omega
    rw [vm.writeSlice_get m a bs i hi, if_pos (h.mono (Nat.le_refl a) (by omega)),
      patch_of_mem hi]
  · rw [vm.writeSlice_frame m a bs x hx, patch_of_notMem hx]

/-- So does writing a range successfully. -/
theorem writeSlice_bytes {m : GuestMemory} {a : ℕ} {bs : List UInt8}
    (h : (vm.writeSlice m a bs).2 = .ok ()) :
    (vm.writeSlice m a bs).1.bytes = patch m.bytes a bs := by
  by_cases hbs : bs = []
  · rw [hbs, vm.writeSlice_nil_bytes, patch_nil]
  · exact vm.writeSlice_of_covers ((vm.writeSlice_ok_iff m a bs hbs).mp h)

/-- A covered block is written. -/
theorem writeSlice_covered {m : GuestMemory} {a : ℕ} {bs : List UInt8} (hne : bs ≠ [])
    (h : m.layout.Covers a bs.length) :
    ∃ m', vm.writeSlice m a bs = (m', .ok ()) ∧ m'.layout = m.layout :=
  ⟨_, Prod.ext rfl ((vm.writeSlice_ok_iff m a bs hne).mpr h), vm.writeSlice_layout m a bs⟩

/-- A write that succeeded has written its block. -/
theorem writeSlice_eq_ok {m m' : GuestMemory} {a : ℕ} {bs : List UInt8}
    (h : vm.writeSlice m a bs = (m', .ok ())) :
    m'.layout = m.layout ∧ m'.bytes = patch m.bytes a bs := by
  have hL := vm.writeSlice_layout m a bs
  have hb := @VmMemory.writeSlice_bytes vm m a bs
  rw [h] at hL hb
  exact ⟨hL, hb rfl⟩

/-- Whether a write of no bytes succeeds is decided by the layout and the address. -/
structure EmptyWrites where
  accepts : Layout → ℕ → Prop
  writeSlice_nil_ok_iff : ∀ m a, (vm.writeSlice m a []).2 = .ok () ↔ accepts m.layout a

variable {vm} in
/-- The layout lets a write of `n` bytes at `a` through. -/
def EmptyWrites.Fits (ew : vm.EmptyWrites) (L : Layout) (a n : ℕ) : Prop :=
  if n = 0 then ew.accepts L a else L.Covers a n

variable {vm} in
/-- A write succeeds exactly when the layout lets it through. -/
theorem EmptyWrites.writeSlice_ok_iff_fits (ew : vm.EmptyWrites) (m : GuestMemory) (a : ℕ)
    (bs : List UInt8) : (vm.writeSlice m a bs).2 = .ok () ↔ ew.Fits m.layout a bs.length := by
  rw [Fits]
  split
  · next h =>
      rw [List.length_eq_zero_iff.mp h]
      exact ew.writeSlice_nil_ok_iff m a
  · next h => exact vm.writeSlice_ok_iff m a bs fun hnil => h (List.length_eq_zero_iff.mpr hnil)

/-- Writing into a region patches the part that fits, and succeeds when all of it does. -/
theorem regionWriteSlice_eq {m : GuestMemory} {r : GuestRegion} (off : ℕ) {bs : List UInt8}
    (hr : r ∈ m.layout.regions) (hbs : bs ≠ []) :
    ∃ res, vm.regionWriteSlice m r off bs =
        (m.withBlock (r.start + off) (bs.take (r.len - off)), res) ∧
      (res = .ok () ↔ off + bs.length ≤ r.len) := by
  have hL := vm.regionWriteSlice_layout m r off bs
  have hb := @VmMemory.regionWriteSlice_bytes vm m r off bs hr hbs
  have hok := @VmMemory.regionWriteSlice_ok_iff vm m r off bs hr hbs
  generalize vm.regionWriteSlice m r off bs = w at hL hb hok
  obtain ⟨⟨L, f⟩, res⟩ := w
  simp only at hL hb hok
  exact ⟨res, by rw [hL, hb, GuestMemory.withBlock], hok⟩

end VmMemory

/-- **Loops that write**: when every step that goes on has written its blocks, a loop that
comes to its end has written all of them, in order. -/
theorem forList_patches {δ ρ : Type} {body : GuestMemory → δ → Flow GuestMemory ρ}
    (blocks : δ → List (ℕ × List UInt8)) {ds : List δ} {m m' : GuestMemory}
    (hstep : ∀ u u', ∀ d ∈ ds, u.layout = m.layout → body u d = .next u' →
      u'.layout = u.layout ∧ u'.bytes = patches u.bytes (blocks d))
    (h : forList body ds m = (m', none)) :
    m'.layout = m.layout ∧ m'.bytes = patches m.bytes (ds.flatMap blocks) := by
  refine forList_rel (R := fun es u => u.layout = m.layout ∧
    u.bytes = patches m.bytes (es.flatMap blocks)) ⟨rfl, rfl⟩ ?_ h
  intro es u u' d hd hu hnext
  obtain ⟨hL, hb⟩ := hstep u u' d hd hu.1 hnext
  rw [List.flatMap_append, List.flatMap_singleton, patches_append, ← hu.2]
  exact ⟨hL.trans hu.1, hb⟩

/-! ### The byte-by-byte implementation -/

/-- The number of consecutive backed addresses from `a` on, at most `n`. -/
def Layout.backedLen (L : Layout) (a : ℕ) : ℕ → ℕ
  | 0 => 0
  | n + 1 => if L.Backed a then L.backedLen (a + 1) n + 1 else 0

theorem Layout.backedLen_le (L : Layout) (a n : ℕ) : L.backedLen a n ≤ n := by
  induction n generalizing a with
  | zero => exact Nat.le_refl 0
  | succ n ih =>
      rw [backedLen]
      have := ih (a + 1)
      split <;> omega

/-- `backedLen` stops at the first address that is not backed. -/
theorem Layout.lt_backedLen_iff (L : Layout) {a n i : ℕ} (hi : i < n) :
    i < L.backedLen a n ↔ L.Covers a (i + 1) := by
  induction n generalizing a i with
  | zero => omega
  | succ n ih =>
      rw [backedLen]
      by_cases ha : L.Backed a
      · rw [if_pos ha]
        cases i with
        | zero =>
            refine ⟨fun _ j hj => ?_, fun _ => Nat.succ_pos _⟩
            obtain rfl : j = 0 := by omega
            exact ha
        | succ i =>
            rw [Nat.add_lt_add_iff_right, ih (by omega)]
            constructor
            · intro h j hj
              cases j with
              | zero => exact ha
              | succ j =>
                  rw [show a + (j + 1) = a + 1 + j by omega]
                  exact h j (by omega)
            · intro h
              exact h.mono (by omega) (by omega)
      · rw [if_neg ha]
        refine ⟨fun h => absurd h (by omega), fun h => absurd (h 0 (by omega)) ha⟩

theorem Layout.backedLen_eq_iff (L : Layout) {a n : ℕ} (hn : 0 < n) :
    L.backedLen a n = n ↔ L.Covers a n := by
  have hle := L.backedLen_le a n
  have h := L.lt_backedLen_iff (a := a) (n := n) (i := n - 1) (by omega)
  rw [Nat.sub_add_cancel hn] at h
  rw [← h]
  omega

/-- The region of a range, when it is one `vm-memory` accepts. -/
def GuestRegion.ofRange (range : ℕ × ℕ) : Except String GuestRegion :=
  if h : 0 < range.2 ∧ range.1 + range.2 < 2 ^ 64 then .ok ⟨range.1, range.2, h.1, h.2⟩
  else .error "Invalid guest region"

theorem GuestRegion.map_ofRange {ranges : List (ℕ × ℕ)} {rs : List GuestRegion}
    (h : ranges.mapM GuestRegion.ofRange = .ok rs) :
    rs.map (fun r => (r.start, r.len)) = ranges := by
  refine (map_of_mapM_ok (k := id) (fun range r hr => ?_) h).trans (List.map_id ranges)
  rw [GuestRegion.ofRange] at hr
  split at hr
  · obtain rfl := Except.ok.inj hr
    rfl
  · cases hr

/-- The result of an access of `n` bytes at `a` of which `k` could be copied. -/
def accessResult (L : Layout) (a n k : ℕ) : Except String Unit :=
  if k = n ∧ L.Backed a then .ok () else .error "Partial buffer or invalid guest address"

theorem accessResult_ok_iff (L : Layout) {a n : ℕ} (hn : 0 < n) :
    accessResult L a n (L.backedLen a n) = .ok () ↔ L.Covers a n := by
  rw [accessResult]
  split
  · next h => exact ⟨fun _ => (L.backedLen_eq_iff hn).mp h.1, fun _ => rfl⟩
  · next h =>
      refine ⟨fun h' => (nomatch h'), fun hc => absurd ⟨?_, hc 0 hn⟩ h⟩
      exact (L.backedLen_eq_iff hn).mpr hc

/-- The implementation that copies byte by byte until the range leaves the memory. -/
def VmMemory.mmap : VmMemory where
  fromRanges ranges :=
    match ranges.mapM GuestRegion.ofRange with
    | .error e => .error e
    | .ok rs =>
        if h : rs.Pairwise GuestRegion.Disjoint then .ok ⟨⟨rs, h⟩, fun _ => 0⟩
        else .error "Some of the memory regions intersect with each other"
  readSlice m a buf :=
    let k := m.layout.backedLen a buf.length
    (slice m.bytes a k ++ buf.drop k, accessResult m.layout a buf.length k)
  writeSlice m a bs :=
    let k := m.layout.backedLen a bs.length
    ({ m with bytes := patch m.bytes a (bs.take k) }, accessResult m.layout a bs.length k)
  findRegion m a := m.layout.regions.find? fun r => decide (r.Contains a)
  regionReadSlice m r off buf :=
    let k := min buf.length (r.len - off)
    (slice m.bytes (r.start + off) k ++ buf.drop k,
      if k = buf.length then .ok () else .error "Partial buffer or out of bounds")
  regionWriteSlice m r off bs :=
    ({ m with bytes := patch m.bytes (r.start + off) (bs.take (r.len - off)) },
      if off + bs.length ≤ r.len then .ok () else .error "Partial buffer or out of bounds")
  fromRanges_regions {ranges m} h := by
    cases hrs : ranges.mapM GuestRegion.ofRange with
    | error e =>
        rw [hrs] at h
        cases h
    | ok rs =>
        rw [hrs] at h
        simp only at h
        split at h
        · obtain rfl := Except.ok.inj h
          exact GuestRegion.map_ofRange hrs
        · cases h
  readSlice_length m a buf := by
    have := m.layout.backedLen_le a buf.length
    rw [List.length_append, length_slice, List.length_drop]
    omega
  readSlice_get m a buf i hi := by
    simp only [← m.layout.lt_backedLen_iff hi]
    by_cases h : i < m.layout.backedLen a buf.length
    · rw [List.getElem?_append_left (by rw [length_slice]; exact h), getElem?_slice _ h,
        if_pos h]
    · rw [List.getElem?_append_right (by rw [length_slice]; omega), length_slice,
        List.getElem?_drop, if_neg h]
      congr 1
      omega
  readSlice_ok_iff m a buf hbuf :=
    accessResult_ok_iff m.layout (List.length_pos_iff.mpr hbuf)
  writeSlice_layout _ _ _ := rfl
  writeSlice_frame m a bs x hx := by
    apply patch_of_notMem
    rw [List.length_take]
    omega
  writeSlice_get m a bs i hi := by
    have hlen := m.layout.backedLen_le a bs.length
    simp only [← m.layout.lt_backedLen_iff hi]
    split
    · next h => rw [patch_of_mem (by rw [List.length_take]; omega), List.getElem_take]
    · next h => exact patch_of_notMem (by rw [List.length_take]; omega)
  writeSlice_ok_iff m a bs hbs :=
    accessResult_ok_iff m.layout (List.length_pos_iff.mpr hbs)
  findRegion_iff m a r := by
    constructor
    · intro h
      have hra := List.find?_some h
      exact ⟨List.mem_of_find?_eq_some h, of_decide_eq_true hra⟩
    · rintro ⟨hr, hra⟩
      cases hf : m.layout.regions.find? fun r => decide (r.Contains a) with
      | none => exact absurd (decide_eq_true hra) (List.find?_eq_none.mp hf r hr)
      | some s =>
          have hsa := List.find?_some hf
          rw [m.layout.region_unique (List.mem_of_find?_eq_some hf) hr
            (of_decide_eq_true hsa) hra]
  regionReadSlice_inside {m r off buf} _ _ h := by
    have hk : min buf.length (r.len - off) = buf.length := by omega
    simp only [hk, List.drop_length, List.append_nil, if_true]
  regionWriteSlice_layout _ _ _ _ := rfl
  regionWriteSlice_bytes _ _ := rfl
  regionWriteSlice_ok_iff {m r off bs} _ _ := by
    split
    · next h => exact ⟨fun _ => h, fun _ => rfl⟩
    · next h => exact ⟨fun h' => (nomatch h'), fun h' => absurd h' h⟩

/-- It lets a write of no bytes through at every backed address. -/
def VmMemory.mmapEmptyWrites : VmMemory.mmap.EmptyWrites where
  accepts L a := L.Backed a
  writeSlice_nil_ok_iff m a := by
    simp only [mmap, accessResult, List.length_nil, Layout.backedLen, true_and]
    split
    · next h => exact iff_of_true rfl h
    · next h => exact iff_of_false (fun h' => nomatch h') h

/-- One page of memory at address zero that begins with these bytes. -/
def GuestMemory.page (bs : List UInt8) : GuestMemory where
  layout := ⟨[⟨0, 4096, by decide, by decide⟩], List.pairwise_singleton _ _⟩
  bytes a := bs.getD a 0

/-! ### `memory.rs` -/

/-- `MEMORY_SIZE`: 128 MB. -/
def memorySize : ℕ := 128 * 1024 * 1024

/-- `KVM_32BIT_GAP_SIZE`: the PCI MMIO gap of 1.5 GB. -/
def kvm32BitGapSize : ℕ := 768 <<< 21

/-- `KVM_32BIT_GAP_START`: the 4 GB boundary. -/
def kvm32BitGapStart : ℕ := 0x100000000

/-- The guest's physical memory and how much of it lies below the gap. -/
structure GuestMemoryRegions where
  memory : GuestMemory
  lowMemSize : ℕ

/-- One region up to 4 GB of memory; above that, low memory and high memory with the
PCI MMIO gap between them. -/
def GuestMemoryRegions.new (vm : VmMemory) : Except HypervisorError GuestMemoryRegions :=
  let lowMemSize := min kvm32BitGapStart memorySize
  let ranges :=
    if memorySize > kvm32BitGapStart then
      let highMemSize := memorySize - kvm32BitGapStart
      [(0, lowMemSize), (kvm32BitGapStart + kvm32BitGapSize, highMemSize)]
    else [(0, lowMemSize)]
  match vm.fromRanges ranges with
  | .error e => .error (.memoryError e)
  | .ok memory => .ok { memory, lowMemSize }

/-- The slot descriptor handed to `set_user_memory_region`. -/
structure KvmUserspaceMemoryRegion where
  slot : ℕ
  guestPhysAddr : ℕ
  memorySize : ℕ
deriving DecidableEq

/-- The slot does not share an address with the window `[base, base + size)`. -/
def KvmUserspaceMemoryRegion.Avoids (k : KvmUserspaceMemoryRegion) (base size : ℕ) : Prop :=
  ∀ a, base ≤ a → a < base + size →
    ¬(k.guestPhysAddr ≤ a ∧ a < k.guestPhysAddr + k.memorySize)

/-- Register every region with KVM, in order; the slots registered. -/
def GuestMemoryRegions.setupMemoryRegion (g : GuestMemoryRegions)
    (setUserMemoryRegion : KvmUserspaceMemoryRegion → Except String Unit) :
    Except HypervisorError (List KvmUserspaceMemoryRegion) :=
  g.memory.layout.regions.zipIdx.mapM fun (region, slot) =>
    let memRegion := { slot, guestPhysAddr := region.start, memorySize := region.len }
    match setUserMemoryRegion memRegion with
    | .error e => .error (.kvmError e)
    | .ok () => .ok memRegion

/-- With the default size there is one region, `[0, 128 MB)`. -/
theorem GuestMemoryRegions.new_regions {vm : VmMemory} {g : GuestMemoryRegions}
    (h : GuestMemoryRegions.new vm = .ok g) :
    g.memory.layout.regions.map (fun r => (r.start, r.len)) = [(0, memorySize)] := by
  have hsmall : ¬memorySize > kvm32BitGapStart := by decide
  rw [GuestMemoryRegions.new, if_neg hsmall] at h
  cases hm : vm.fromRanges [(0, min kvm32BitGapStart memorySize)] with
  | error e =>
      rw [hm] at h
      cases h
  | ok m =>
      rw [hm] at h
      obtain rfl := Except.ok.inj h
      exact vm.fromRanges_regions hm

end MoVm
