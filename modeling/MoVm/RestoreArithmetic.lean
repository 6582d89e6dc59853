import MoVm.Snapshot

/-!
# The Address Arithmetic of `restore_memory`

A snapshot is a file, and the addresses, sizes and data in it are whatever the file says. Of the
sums that `restore_memory` forms from them only two are checked: the ends of the region in guest
memory and of the saved region, which is computed from its declared size. The loop that writes the
data does not look at that size. It adds the offset of each chunk to an offset in the region and to
a guest address without a check.

`restoreMemoryChecked` is the function in a build with overflow checks: every operation that is
not checked in the source panics when its result does not fit. What keeps the sums small is that a
chunk is reached only after all chunks before it have been written, each of them whole and inside
the region (`forList_writeChunkChecked`).

## Main results

* `restoreMemoryChecked_eq`: the checks make no difference, so the function returns.
-/

open Lib

namespace MoVm

variable (vm : VmMemory)

/-! ### The function with overflow checks -/

/-- The result of an addition or a multiplication on 64 bits, if it fits. -/
def fitsU64 (n : ℕ) : Option ℕ :=
  if n < 2 ^ 64 then some n else none

/-- `a - b` on 64 bits, if it fits. -/
def subU64 (a b : ℕ) : Option ℕ :=
  if b ≤ a then some (a - b) else none

/-- A sum that fits is returned. -/
theorem fitsU64_of_lt {n : ℕ} (h : n < 2 ^ 64) : fitsU64 n = some n :=
  if_pos h

/-- One that does not fit is not. -/
theorem fitsU64_of_ge {n : ℕ} (h : 2 ^ 64 ≤ n) : fitsU64 n = none :=
  if_neg (Nat.not_lt.mpr h)

/-- Write one chunk into a region. The address is only used for the text of an error, but it is
computed before the write. -/
def writeChunkChecked (region : GuestRegion) (regionOffset guestAddr : ℕ) (m : GuestMemory)
    (chunk : ℕ × List UInt8) : Flow GuestMemory (Outcome HypervisorError Empty) :=
  match fitsU64 (chunk.1 * 4096) with
  | none => .exit m .panic
  | some delta =>
      match fitsU64 (regionOffset + delta) with
      | none => .exit m .panic
      | some offset =>
          match fitsU64 (guestAddr + delta) with
          | none => .exit m .panic
          | some addr =>
              match vm.regionWriteSlice m region offset chunk.2 with
              | (m', .ok ()) => .next m'
              | (m', .error e) =>
                  .exit m' (.err (.memoryError
                    ("Failed to write memory at 0x" ++ hex addr ++ ": " ++ e)))

/-- The body of the loop of `restore_memory`. The two ends are formed by `checked_add`. -/
def restoreRegionChecked (m : GuestMemory) (memRegion : MemoryRegion) :
    Flow GuestMemory (Outcome HypervisorError Empty) :=
  let guestAddr := memRegion.guestAddr.toNat
  match vm.findRegion m guestAddr with
  | none =>
      .exit m (.err (.memoryError
        ("No memory region found for guest address 0x" ++ hex guestAddr)))
  | some region =>
      match fitsU64 (region.start + region.len) with
      | none => .exit m (.err (.memoryError "Region end overflow"))
      | some regionEnd =>
          match fitsU64 (guestAddr + memRegion.size.toNat) with
          | none => .exit m (.err (.memoryError "Memory region end overflow"))
          | some memRegionEnd =>
              if guestAddr < region.start ∨ regionEnd < memRegionEnd then
                .exit m (.err (.memoryError
                  ("Memory region 0x" ++ hex guestAddr ++ " size " ++
                    toString memRegion.size.toNat ++ " doesn't fit in guest memory")))
              else
                match subU64 guestAddr region.start with
                | none => .exit m .panic
                | some regionOffset =>
                    match forList (writeChunkChecked vm region regionOffset guestAddr)
                        (chunks 4096 memRegion.data) m with
                    | (m', none) => .next m'
                    | (m', some r) => .exit m' r

/-- `restore_memory` in a build with overflow checks. -/
def restoreMemoryChecked (m : GuestMemory) (regions : List MemoryRegion) :
    GuestMemory × Outcome HypervisorError Unit :=
  match forList (restoreRegionChecked vm) regions m with
  | (m', none) => (m', .ok ())
  | (m', some r) => (m', r.bind nofun)

variable {vm}

/-! ### Chunks -/

/-- A chunk that starts inside the region is written as without the checks. -/
theorem writeChunkChecked_eq {region : GuestRegion} {regionOffset guestAddr i : ℕ}
    (haddr : guestAddr = region.start + regionOffset)
    (hstart : regionOffset + i * 4096 ≤ region.len) (m : GuestMemory) (bs : List UInt8) :
    writeChunkChecked vm region regionOffset guestAddr m (i, bs) =
      (writeChunk vm region regionOffset guestAddr m (i, bs)).mapExit .err := by
  have hend := region.end_lt
  rw [writeChunkChecked, writeChunk]
  simp only [fitsU64_of_lt (show i * 4096 < 2 ^ 64 by omega),
    fitsU64_of_lt (show regionOffset + i * 4096 < 2 ^ 64 by omega),
    fitsU64_of_lt (show guestAddr + i * 4096 < 2 ^ 64 by omega)]
  rcases vm.regionWriteSlice m region (regionOffset + i * 4096) bs with ⟨m', e | u⟩
  · rfl
  · rfl

/-- **All chunks**: a chunk is reached only when the ones before it, which are full, have been
written inside the region, so it starts inside the region as well. -/
theorem forList_writeChunkChecked {region : GuestRegion} {regionOffset guestAddr : ℕ}
    (haddr : guestAddr = region.start + regionOffset) (hoff : regionOffset ≤ region.len)
    {m : GuestMemory} (hr : region ∈ m.layout.regions) (data : List UInt8) :
    forList (writeChunkChecked vm region regionOffset guestAddr) (chunks 4096 data) m =
      ((forList (writeChunk vm region regionOffset guestAddr) (chunks 4096 data) m).1,
        (forList (writeChunk vm region regionOffset guestAddr) (chunks 4096 data) m).2.map
          .err) := by
  refine chunksFrom_induction (n := 4096) (motive := fun fuel i l => ∀ m : GuestMemory,
    region ∈ m.layout.regions → (l ≠ [] → regionOffset + i * 4096 ≤ region.len) →
    forList (writeChunkChecked vm region regionOffset guestAddr) (chunksFrom 4096 fuel i l) m =
      ((forList (writeChunk vm region regionOffset guestAddr) (chunksFrom 4096 fuel i l) m).1,
        (forList (writeChunk vm region regionOffset guestAddr)
          (chunksFrom 4096 fuel i l) m).2.map .err))
    (by decide) ?_ ?_ (Nat.le_refl data.length) m hr (fun _ => by omega)
  · intro fuel i m _ _
    rw [chunksFrom_nil]
    rfl
  · intro fuel i l hl _ ih m hr hstart
    have hlen : (l.take 4096).length = min 4096 l.length := List.length_take
    have hpos := List.length_pos_iff.mpr hl
    have hne : l.take 4096 ≠ [] := List.ne_nil_of_length_pos (by omega)
    rw [chunksFrom_cons 4096 fuel i hl, forList, forList, writeChunkChecked_eq haddr (hstart hl)]
    rcases Nat.lt_or_ge region.len (regionOffset + i * 4096 + (l.take 4096).length) with hlt | hle
    · obtain ⟨e, hcut⟩ := writeChunk_cut vm regionOffset guestAddr hr hne hlt
      rw [hcut]
      rfl
    · rw [writeChunk_fits vm regionOffset guestAddr hr hne hle]
      refine ih _ hr fun hrest => ?_
      -- there is a next chunk, so this one was full
      have hmore := List.length_pos_iff.mpr hrest
      rw [List.length_drop] at hmore
      omega

/-! ### Regions -/

/-- Restoring one region never overflows. -/
theorem restoreRegionChecked_eq (m : GuestMemory) (memRegion : MemoryRegion) :
    restoreRegionChecked vm m memRegion = (restoreRegion vm m memRegion).mapExit .err := by
  simp only [restoreRegionChecked, restoreRegion]
  cases hfind : vm.findRegion m memRegion.guestAddr.toNat with
  | none => rfl
  | some region =>
      obtain ⟨hr, hlo, hhi⟩ := (vm.findRegion_iff m _ region).mp hfind
      have hend := region.end_lt
      simp only [fitsU64_of_lt hend, if_neg (Nat.not_le.mpr hend)]
      by_cases hover : 2 ^ 64 ≤ memRegion.guestAddr.toNat + memRegion.size.toNat
      · simp only [fitsU64_of_ge hover, if_pos hover]
        rfl
      simp only [fitsU64_of_lt (Nat.not_le.mp hover), if_neg hover]
      split
      · rfl
      have hsub : subU64 memRegion.guestAddr.toNat region.start =
        some (memRegion.guestAddr.toNat - region.start) := if_pos hlo
      simp only [hsub]
      rw [forList_writeChunkChecked (by omega) (by omega) hr]
      rcases forList (writeChunk vm region (memRegion.guestAddr.toNat - region.start)
        memRegion.guestAddr.toNat) (chunks 4096 memRegion.data) m with ⟨m', _ | e⟩
      · rfl
      · rfl

/-- **The address arithmetic of `restore_memory` is safe**: whatever the regions of a snapshot
say, no operation overflows or underflows, so the function returns, and returns what it would with
numbers of any size. -/
theorem restoreMemoryChecked_eq (vm : VmMemory) (m : GuestMemory) (regions : List MemoryRegion) :
    (restoreMemoryChecked vm m regions).2 ≠ .panic ∧
      restoreMemoryChecked vm m regions =
        match restoreMemory vm m regions with
        | (m', none) => (m', .ok ())
        | (m', some e) => (m', .err e) := by
  have heq : restoreMemoryChecked vm m regions =
      match restoreMemory vm m regions with
      | (m', none) => (m', .ok ())
      | (m', some e) => (m', .err e) := by
    rw [restoreMemoryChecked, forList_mapExit restoreRegionChecked_eq, restoreMemory]
    rcases forList (restoreRegion vm) regions m with ⟨m', _ | e⟩
    · rfl
    · rfl
  refine ⟨?_, heq⟩
  rw [heq]
  rcases restoreMemory vm m regions with ⟨m', _ | e⟩
  · simp only [ne_eq, reduceCtorEq, not_false_eq_true]
  · simp only [ne_eq, reduceCtorEq, not_false_eq_true]

end MoVm
