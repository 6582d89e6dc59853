import MoVm.KernelLoader
import MoVm.Lib.Paging

/-!
# The Boot Page Tables

The six pages that `load_kernel` writes from `0x9000` on are an identity map of the first
4 GB. Whatever was in these pages before, also from segments of the kernel, they are zeroed
first; then the entries are written in address order, and the command line and the zero page
lie outside.

## Main results

* `identityTables_loadElf`: the pages are identity tables in the sense of `Lib.Paging`.
* `loadKernel_identity_map`: what a page walk through them finds.
-/

open Lib

namespace MoVm

/-- The page table entry at a guest address. -/
def GuestMemory.entryAt (m : GuestMemory) (a : ℕ) : Option ℕ :=
  if m.layout.Covers a 8 then some (leNat (slice m.bytes a 8)) else none

/-! ### The blocks of the page tables -/

/-- The one entry of the PML4 page. -/
def pml4Write : BootWrite where
  addr := pageTableBase
  bytes := leBytes 8 (pdpteAddr ||| 0x3)
  error := "PML4 write failed"

/-- The entries of the page tables, in the order in which they are written. -/
def tableEntries : List BootWrite :=
  pml4Write :: ((List.range 4).map pdpteWrite ++ (List.range 2048).map pdeWrite)

/-- Where the entries lie. -/
theorem mem_tableEntries {w : BootWrite} (hw : w ∈ tableEntries) : w.bytes.length = 8 ∧
    (w.addr = 0x9000 ∨ (0xa000 ≤ w.addr ∧ w.addr + 8 ≤ 0xa020) ∨
      (0xb000 ≤ w.addr ∧ w.addr + 8 ≤ 0xF000)) := by
  simp only [tableEntries, List.mem_cons, List.mem_append, List.mem_map, List.mem_range] at hw
  rcases hw with rfl | ⟨i, hi, rfl⟩ | ⟨i, hi, rfl⟩
  · exact ⟨length_leBytes _ _, Or.inl rfl⟩
  · have haddr : (pdpteWrite i).addr = 0xa000 + i * 8 := rfl
    exact ⟨length_leBytes _ _, by omega⟩
  · have haddr : (pdeWrite i).addr = 0xb000 + i * 8 := rfl
    exact ⟨length_leBytes _ _, by omega⟩

/-- The blocks of the entries. -/
def tableBlocks : List (ℕ × List UInt8) :=
  tableEntries.map fun w => (w.addr, w.bytes)

/-- They are written in address order. -/
theorem sorted_tableBlocks : tableBlocks.Pairwise fun v w => v.1 + v.2.length ≤ w.1 := by
  have hlen₁ : ∀ i, (pdpteWrite i).bytes.length = 8 := fun i => length_leBytes _ _
  have hlen₂ : ∀ i, (pdeWrite i).bytes.length = 8 := fun i => length_leBytes _ _
  have haddr₁ : ∀ i, (pdpteWrite i).addr = 0xa000 + i * 8 := fun i => rfl
  have haddr₂ : ∀ i, (pdeWrite i).addr = 0xb000 + i * 8 := fun i => rfl
  refine List.pairwise_map.mpr (List.pairwise_cons.mpr ⟨fun w hw => ?_, ?_⟩)
  · have hroot : pml4Write.addr + pml4Write.bytes.length = 0x9008 := rfl
    rw [hroot]
    rcases List.mem_append.mp hw with hw | hw <;> obtain ⟨i, -, rfl⟩ := List.mem_map.mp hw
    · exact Nat.le_trans (by decide) (Nat.le_add_right 0xa000 (i * 8))
    · exact Nat.le_trans (by decide) (Nat.le_add_right 0xb000 (i * 8))
  refine List.pairwise_append.mpr ⟨?_, ?_, fun v hv w hw => ?_⟩
  · refine List.pairwise_map.mpr (List.pairwise_lt_range.imp fun {i j} hij => ?_)
    rw [hlen₁, haddr₁, haddr₁]
    omega
  · refine List.pairwise_map.mpr (List.pairwise_lt_range.imp fun {i j} hij => ?_)
    rw [hlen₂, haddr₂, haddr₂]
    omega
  · obtain ⟨i, hi, rfl⟩ := List.mem_map.mp hv
    obtain ⟨j, -, rfl⟩ := List.mem_map.mp hw
    have := List.mem_range.mp hi
    rw [hlen₁, haddr₁, haddr₂]
    omega

/-- The blocks after the segments: six pages of zeros, the entries, and two blocks that lie
outside the pages. -/
theorem bootBlocks_eq (cmdline : String) :
    bootBlocks cmdline = (pageTableBase, zeroPages) :: tableBlocks ++
      [(cmdlineAddr, cmdlineBytes cmdline), (bootParamsAddr, bootParams)] := by
  simp only [bootBlocks, bootWrites, pageTables, tableBlocks, tableEntries, pml4Write,
    List.map_append, List.map_cons, List.map_nil, List.cons_append, List.nil_append,
    List.append_assoc]

/-- A range inside the six pages is read from the zeros and the entries. -/
theorem slice_bootBlocks (f : ℕ → UInt8) (cmdline : String) {a n : ℕ} (hlo : 0x9000 ≤ a)
    (hhi : a + n ≤ 0xF000) :
    slice (patches f (bootBlocks cmdline)) a n =
      slice (patches (patch f pageTableBase zeroPages) tableBlocks) a n := by
  have hcmd : cmdlineAddr = 0x10000 := rfl
  have hparams : bootParamsAddr = 0x7000 := rfl
  rw [bootBlocks_eq, patches_append, patches_cons f]
  apply slice_patches_of_disjoint
  simp only [List.mem_cons, List.not_mem_nil, or_false, forall_eq_or_imp, forall_eq,
    length_bootParams]
  omega

/-- The entries that are written. -/
theorem entry_bootBlocks (f : ℕ → UInt8) (cmdline : String) {w : BootWrite}
    (hw : w ∈ tableEntries) : slice (patches f (bootBlocks cmdline)) w.addr 8 = w.bytes := by
  obtain ⟨hlen, haddr⟩ := mem_tableEntries hw
  have hmem : (w.addr, w.bytes) ∈ tableBlocks := List.mem_map_of_mem hw
  have hread := slice_patches_of_mem (f := patch f pageTableBase zeroPages) sorted_tableBlocks hmem
  simp only [hlen] at hread
  exact (slice_bootBlocks f cmdline (by omega) (by omega)).trans hread

/-- The entries that are not written are zero. -/
theorem entry_bootBlocks_zero (f : ℕ → UInt8) (cmdline : String) {a : ℕ} (hlo : 0x9000 ≤ a)
    (hhi : a + 8 ≤ 0xF000) (hw : ∀ w ∈ tableEntries, a + 8 ≤ w.addr ∨ w.addr + 8 ≤ a) :
    slice (patches f (bootBlocks cmdline)) a 8 = List.replicate 8 0 := by
  have hbase : pageTableBase = 0x9000 := rfl
  obtain ⟨i, rfl⟩ : ∃ i, a = pageTableBase + i := ⟨a - pageTableBase, by omega⟩
  rw [slice_bootBlocks f cmdline hlo hhi, slice_patches_of_disjoint,
    slice_patch_inside (by rw [length_zeroPages]; omega), zeroPages, List.drop_replicate,
    List.take_replicate, Nat.min_eq_left (by omega)]
  intro v hv
  obtain ⟨w, hmem, rfl⟩ := List.mem_map.mp hv
  rw [(mem_tableEntries hmem).1]
  exact hw w hmem

/-! ### The tables -/

variable {vm : VmMemory} {buffer : List UInt8} {elf : Elf} {m m' : GuestMemory} {cmdline : String}
  {loader : KernelLoader}

/-- The six pages are in memory. -/
theorem covers_pageTables (h : loadElf vm buffer elf m cmdline = (m', .ok loader)) :
    m'.layout.Covers 0x9000 0x6000 := by
  obtain ⟨m₁, hseg, hboot, -⟩ := loadElf_eq_ok h
  have hcov := bootWrites_covers hboot
    { addr := pageTableBase, bytes := zeroPages, error := "Failed to zero page tables" }
    List.mem_cons_self (List.ne_nil_of_length_pos (by rw [length_zeroPages]; decide))
  rw [length_zeroPages, ← (bootWrites_ok hboot).1] at hcov
  exact hcov

/-- The flags of an entry do not overlap with an aligned address. -/
theorem or_flags {k flags : ℕ} (hflags : flags < 2 ^ k) {addr : ℕ} (haddr : addr % 2 ^ k = 0) :
    addr ||| flags = addr + flags := by
  obtain ⟨a, rfl⟩ := Nat.dvd_of_mod_eq_zero haddr
  rw [Nat.two_pow_add_eq_or_of_lt hflags]

/-- An entry in the six pages has the value that its bytes encode. -/
theorem entryAt_pageTables (h : loadElf vm buffer elf m cmdline = (m', .ok loader)) {a v : ℕ}
    (hlo : 0x9000 ≤ a) (hhi : a + 8 ≤ 0xF000) (hv : v < 2 ^ 64)
    (hslice : ∀ f, slice (patches f (bootBlocks cmdline)) a 8 = leBytes 8 v) :
    m'.entryAt a = some v := by
  obtain ⟨-, hbytes, -⟩ := loadElf_ok h
  rw [GuestMemory.entryAt, if_pos ((covers_pageTables h).mono hlo (by omega)), hbytes,
    loadedBlocks, patches_append, hslice, leNat_leBytes_of_lt (by omega)]

/-- **The pages are identity tables** after every successful call. -/
theorem identityTables_loadElf (h : loadElf vm buffer elf m cmdline = (m', .ok loader)) :
    IdentityTables m'.entryAt 0x9000 0xa000 0xb000 4 where
  le := by decide
  pdpt_aligned := by decide
  pdpt_lt := by decide
  pd_aligned := by decide
  pd_lt := by decide
  root := by
    refine entryAt_pageTables h (by decide) (by decide) (by decide) fun f => ?_
    have hval : pdpteAddr ||| 0x3 = 0xa000 + 3 := by decide
    have hread := entry_bootBlocks f cmdline (w := pml4Write) List.mem_cons_self
    rwa [pml4Write, hval] at hread
  root_rest i hi hi' := by
    refine entryAt_pageTables h (by omega) (by omega) (by decide) fun f => ?_
    refine entry_bootBlocks_zero f cmdline (by omega) (by omega) fun w hw => ?_
    have := mem_tableEntries hw
    omega
  dir i hi := by
    refine entryAt_pageTables h (by omega) (by omega) (by omega) fun f => ?_
    have hpd : pdeAddr = 0xb000 := rfl
    have hval : (pdeAddr + i * 0x1000) ||| 0x3 = 0xb000 + i * 4096 + 3 := by
      rw [or_flags (k := 12) (by decide) (by omega), hpd]
    have hmem : pdpteWrite i ∈ tableEntries := List.mem_cons_of_mem _
      (List.mem_append_left _ (List.mem_map_of_mem (List.mem_range.mpr hi)))
    have hread := entry_bootBlocks f cmdline hmem
    rwa [pdpteWrite, hval] at hread
  dir_rest i hi hi' := by
    refine entryAt_pageTables h (by omega) (by omega) (by decide) fun f => ?_
    refine entry_bootBlocks_zero f cmdline (by omega) (by omega) fun w hw => ?_
    have := mem_tableEntries hw
    omega
  page i hi := by
    refine entryAt_pageTables h (by omega) (by omega) (by omega) fun f => ?_
    have hval : (i * 0x200000) ||| 0x83 = i * 2 ^ 21 + 0x83 :=
      or_flags (k := 21) (by decide) (by omega)
    have hmem : pdeWrite i ∈ tableEntries := List.mem_cons_of_mem _
      (List.mem_append_right _ (List.mem_map_of_mem (List.mem_range.mpr hi)))
    have hread := entry_bootBlocks f cmdline hmem
    rwa [pdeWrite, hval] at hread

/-- **The boot page tables are a 4 GB identity map**: after every successful call, a page walk
with `CR3 = 0x9000` takes every virtual address below 4 GB to itself, through a present and
writable page of 2 MB, and finds every canonical address above not present. -/
theorem loadKernel_identity_map {files : KernelFiles} {kernelPath : String}
    (h : KernelLoader.loadKernel vm files m kernelPath cmdline = (m', .ok loader)) (va : ℕ) :
    (va < 2 ^ 32 → pageWalk m'.entryAt 0x9000 va = .page va (2 ^ 21) true) ∧
      (2 ^ 32 ≤ va → Canonical va → pageWalk m'.entryAt 0x9000 va = .notPresent) := by
  obtain ⟨buffer, elf, -, -, helf⟩ := KernelLoader.loadKernel_eq_ok h
  have htables := identityTables_loadElf helf
  have hcr3 : entryFrame 12 0x9000 = 0x9000 := by decide
  rw [pageWalk, hcr3]
  exact ⟨fun hva => htables.walk_below (by omega), fun hva => htables.walk_above (by omega)⟩

theorem loadKernel_identity_map_twoBytes :
    ∃ m' loader, KernelLoader.loadKernel VmMemory.mmap .twoBytes (.ram 7) "vmlinux" "" =
        (m', .ok loader) ∧
      pageWalk m'.entryAt 0x9000 0xfee00020 = .page 0xfee00020 (2 ^ 21) true ∧
      pageWalk m'.entryAt 0x9000 0xffff800000000000 = .notPresent := by
  obtain ⟨m', h⟩ := loadKernel_twoBytes VmMemory.mmap 7
  exact ⟨m', _, h, (loadKernel_identity_map h _).1 (by decide),
    (loadKernel_identity_map h _).2 (by decide) (Or.inr (by decide))⟩

end MoVm
