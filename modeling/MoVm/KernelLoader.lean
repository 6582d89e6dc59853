import MoVm.GuestMemory

/-!
# The Kernel Loader

The model of `kernel_loader.rs`: the `PT_LOAD` segments of an ELF file are copied to guest
memory, then page tables, the command line and the boot parameters are written at fixed
addresses. Reading the file and parsing it as ELF are parameters.

After the segments, the loader is a fixed list of writes (`bootWrites`) that stops at the
first failure. So a call that returns `Ok` has written one list of blocks (`loadedBlocks`).

The arithmetic is that of a release build: `p_offset + p_filesz` wraps modulo `2 ^ 64`.

## Main results

* `loadElf_ok`, `KernelLoader.loadKernel_ok`: the memory image after loading is the initial
  memory patched with these blocks.
* `slice_loadedBlocks_cmdline`, `slice_loadedBlocks_bootParams`: the command line and the zero
  page are not overwritten.
* `loadElf_of_loadable`: loading succeeds when the blocks are backed by memory.
-/

open Lib

namespace MoVm

/-! ### ELF files -/

/-- The fields of a program header that the loader reads. The size in memory is only
logged. -/
structure ProgramHeader where
  pType : UInt32
  pOffset : UInt64
  pPaddr : UInt64
  pFilesz : UInt64
  pMemsz : UInt64
deriving DecidableEq

/-- What the loader takes from a parsed ELF file. -/
structure Elf where
  entry : UInt64
  programHeaders : List ProgramHeader
deriving DecidableEq

/-- `PT_LOAD`. -/
def ptLoad : UInt32 := 1

/-- The files the loader reads, and the ELF parser. -/
structure KernelFiles where
  /-- `File::open` and `read_to_end`. -/
  readFile : String → Except String (List UInt8)
  /-- `Elf::parse`. -/
  parse : List UInt8 → Except String Elf

/-- What `load_kernel` returns. -/
structure KernelLoader where
  entryPoint : UInt64
  cmdline : String
deriving DecidableEq

variable (vm : VmMemory)

/-! ### Segments -/

/-- `(phdr.p_offset + phdr.p_filesz) as usize`. -/
def ProgramHeader.fileEnd (phdr : ProgramHeader) : ℕ :=
  (phdr.pOffset + phdr.pFilesz).toNat

/-- `buffer[file_start..file_end]`. -/
def ProgramHeader.fileBytes (phdr : ProgramHeader) (buffer : List UInt8) : List UInt8 :=
  load buffer phdr.pOffset.toNat (phdr.fileEnd - phdr.pOffset.toNat)

/-- The body of the loop over the program headers, which never returns `Ok` from inside.
Slicing panics when the range ends before it starts. -/
def loadSegment (buffer : List UInt8) (m : GuestMemory) (phdr : ProgramHeader) :
    Flow GuestMemory (Outcome HypervisorError Empty) :=
  if phdr.pType = ptLoad then
    if phdr.fileEnd > buffer.length then
      .exit m (.err (.memoryError "Invalid ELF segment: extends past end of file"))
    else if phdr.pOffset.toNat > phdr.fileEnd then .exit m .panic
    else
      match vm.writeSlice m phdr.pPaddr.toNat (phdr.fileBytes buffer) with
      | (m', .ok ()) => .next m'
      | (m', .error e) =>
          .exit m' (.err (.memoryError
            ("Failed to write kernel segment at 0x" ++ hex phdr.pPaddr.toNat ++ ": " ++ e)))
  else .next m

/-! ### Page tables, command line and boot parameters -/

/-- A write at a fixed address, and the text of the error when it fails. -/
structure BootWrite where
  addr : ℕ
  bytes : List UInt8
  error : String

/-- `page_table_base`: the address of the PML4 page. -/
def pageTableBase : ℕ := 0x9000

/-- The page behind the PML4 page. -/
def pdpteAddr : ℕ := pageTableBase + 0x1000

/-- The first of the four pages behind it. -/
def pdeAddr : ℕ := pageTableBase + 0x2000

/-- The four entries that point to the page directories. -/
def pdpteWrite (i : ℕ) : BootWrite where
  addr := pdpteAddr + i * 8
  bytes := leBytes 8 ((pdeAddr + i * 0x1000) ||| 0x3)
  error := "PDPTE write failed"

/-- The 2 MB page with number `i`. -/
def pdeWrite (i : ℕ) : BootWrite where
  addr := pdeAddr + i * 8
  bytes := leBytes 8 ((i * 0x200000) ||| 0x83)
  error := "PDE write failed"

/-- Six pages of zeros, `vec![0u8; 0x6000]`. -/
def zeroPages : List UInt8 := List.replicate 0x6000 0

/-- The identity map of the first 4 GB. -/
def pageTables : List BootWrite :=
  [{ addr := pageTableBase, bytes := zeroPages, error := "Failed to zero page tables" },
   { addr := pageTableBase, bytes := leBytes 8 (pdpteAddr ||| 0x3),
     error := "PML4 write failed" }] ++
    (List.range 4).map pdpteWrite ++ (List.range 2048).map pdeWrite

/-- Where the command line is written. -/
def cmdlineAddr : ℕ := 0x10000

/-- Where the zero page is written. -/
def bootParamsAddr : ℕ := 0x7000

/-- The zero page: the loader type, the command line pointer and a memory map of one
entry. -/
def bootParams : List UInt8 :=
  let page := List.replicate 4096 0
  let page := page.set 0x210 0xFF
  let page := store page 0x228 (leBytes 4 cmdlineAddr)
  let page := page.set 0x1e8 1
  let page := store page 0x2d0 (leBytes 8 0)
  let page := store page 0x2d8 (leBytes 8 0x8000000)
  store page 0x2e0 (leBytes 4 1)

/-- `cmdline_cstr.as_bytes()`: the command line and a NUL byte. -/
def cmdlineBytes (cmdline : String) : List UInt8 :=
  (cmdline.toList ++ [Char.ofNat 0]).flatMap String.utf8EncodeChar

/-- All writes after the segments, in order. -/
def bootWrites (cmdline : String) : List BootWrite :=
  pageTables ++
    [{ addr := cmdlineAddr, bytes := cmdlineBytes cmdline, error := "Failed to write cmdline" },
     { addr := bootParamsAddr, bytes := bootParams, error := "Failed to write boot params" }]

/-- One of them. -/
def bootWrite (m : GuestMemory) (w : BootWrite) : Flow GuestMemory HypervisorError :=
  match vm.writeSlice m w.addr w.bytes with
  | (m', .ok ()) => .next m'
  | (m', .error _) => .exit m' (.memoryError w.error)

/-! ### `load_kernel` -/

/-- `load_kernel` on the content of the file: the memory afterwards, and how it ended. The
last step reads sixteen bytes at the entry point for the log and unwraps the result. -/
def loadElf (buffer : List UInt8) (elf : Elf) (m : GuestMemory) (cmdline : String) :
    GuestMemory × Outcome HypervisorError KernelLoader :=
  match forList (loadSegment vm buffer) elf.programHeaders m with
  | (m, some r) => (m, r.bind nofun)
  | (m, none) =>
      match forList (bootWrite vm) (bootWrites cmdline) m with
      | (m, some e) => (m, .err e)
      | (m, none) =>
          match vm.readSlice m elf.entry.toNat (List.replicate 16 0) with
          | (_, .error _) => (m, .panic)
          | (_, .ok ()) => (m, .ok { entryPoint := elf.entry, cmdline })

/-- `KernelLoader::load_kernel`. -/
def KernelLoader.loadKernel (files : KernelFiles) (m : GuestMemory) (kernelPath : String)
    (cmdline : String) : GuestMemory × Outcome HypervisorError KernelLoader :=
  match files.readFile kernelPath with
  | .error e => (m, .err (.ioError e))
  | .ok buffer =>
      match files.parse buffer with
      | .error _ => (m, .err (.memoryError "Invalid ELF format"))
      | .ok elf => loadElf vm buffer elf m cmdline

/-! ### The blocks a call writes -/

/-- The blocks of the `PT_LOAD` segments, in program header order. -/
def segmentBlocks (buffer : List UInt8) (phdrs : List ProgramHeader) :
    List (ℕ × List UInt8) :=
  (phdrs.filter fun phdr => phdr.pType = ptLoad).map fun phdr =>
    (phdr.pPaddr.toNat, phdr.fileBytes buffer)

/-- The blocks at fixed addresses. -/
def bootBlocks (cmdline : String) : List (ℕ × List UInt8) :=
  (bootWrites cmdline).map fun w => (w.addr, w.bytes)

/-- All blocks that loading the file writes, in order. -/
def loadedBlocks (buffer : List UInt8) (elf : Elf) (cmdline : String) :
    List (ℕ × List UInt8) :=
  segmentBlocks buffer elf.programHeaders ++ bootBlocks cmdline

variable {vm}

/-- The blocks of the segments, header by header. -/
theorem segmentBlocks_eq_flatMap (buffer : List UInt8) (phdrs : List ProgramHeader) :
    segmentBlocks buffer phdrs = phdrs.flatMap fun phdr => segmentBlocks buffer [phdr] := by
  induction phdrs with
  | nil => rfl
  | cons phdr phdrs ih =>
      rw [List.flatMap_cons, ← ih]
      simp only [segmentBlocks, ← List.map_append, ← List.filter_append, List.singleton_append]

/-- A segment on which the loop goes on has been written whole. -/
theorem loadSegment_next {buffer : List UInt8} {m m' : GuestMemory} {phdr : ProgramHeader}
    (h : loadSegment vm buffer m phdr = .next m') :
    m'.layout = m.layout ∧ m'.bytes = patches m.bytes (segmentBlocks buffer [phdr]) := by
  unfold loadSegment at h
  by_cases hload : phdr.pType = ptLoad
  · rw [if_pos hload] at h
    split at h
    · cases h
    split at h
    · cases h
    rw [segmentBlocks, List.filter_cons_of_pos (by rwa [decide_eq_true_eq]), List.filter_nil,
      List.map_singleton, patches_cons, patches_nil]
    rcases hw : vm.writeSlice m phdr.pPaddr.toNat (phdr.fileBytes buffer) with ⟨w, e | u⟩
    · rw [hw] at h
      cases h
    · rw [hw] at h
      obtain rfl := Flow.next.inj h
      exact vm.writeSlice_eq_ok hw
  · rw [if_neg hload] at h
    obtain rfl := Flow.next.inj h
    rw [segmentBlocks, List.filter_cons_of_neg (by rwa [decide_eq_true_eq])]
    exact ⟨rfl, rfl⟩

/-- A write at a fixed address that succeeds has written its block. -/
theorem bootWrite_next {m m' : GuestMemory} {w : BootWrite}
    (h : bootWrite vm m w = .next m') :
    m'.layout = m.layout ∧ m'.bytes = patch m.bytes w.addr w.bytes := by
  unfold bootWrite at h
  rcases hw : vm.writeSlice m w.addr w.bytes with ⟨u, e | _⟩
  · rw [hw] at h
    cases h
  · rw [hw] at h
    obtain rfl := Flow.next.inj h
    exact vm.writeSlice_eq_ok hw

/-- A write into covered memory goes through. -/
theorem bootWrite_covered (vm : VmMemory) {m : GuestMemory} {L : Layout} {w : BootWrite}
    (hne : w.bytes ≠ []) (hcov : L.Covers w.addr w.bytes.length) (hm : m.layout = L) :
    ∃ m', bootWrite vm m w = .next m' ∧ m'.layout = L := by
  rw [← hm] at hcov
  obtain ⟨m', hw, hL⟩ := vm.writeSlice_covered hne hcov
  rw [bootWrite, hw]
  exact ⟨m', rfl, hL.trans hm⟩

/-- The segments that were loaded have been written in order. -/
theorem loadSegments_ok {buffer : List UInt8} {phdrs : List ProgramHeader}
    {m m' : GuestMemory} (h : forList (loadSegment vm buffer) phdrs m = (m', none)) :
    m'.layout = m.layout ∧ m'.bytes = patches m.bytes (segmentBlocks buffer phdrs) := by
  rw [segmentBlocks_eq_flatMap]
  exact forList_patches _ (fun _ _ _ _ _ hnext => loadSegment_next hnext) h

/-- So have the blocks at fixed addresses. -/
theorem bootWrites_ok {ws : List BootWrite} {m m' : GuestMemory}
    (h : forList (bootWrite vm) ws m = (m', none)) :
    m'.layout = m.layout ∧ m'.bytes = patches m.bytes (ws.map fun w => (w.addr, w.bytes)) := by
  rw [List.map_eq_flatMap]
  exact forList_patches _ (fun _ _ _ _ _ hnext => bootWrite_next hnext) h

/-- Writes that all succeeded lie in memory. -/
theorem bootWrites_covers {ws : List BootWrite} {m m' : GuestMemory}
    (h : forList (bootWrite vm) ws m = (m', none)) :
    ∀ w ∈ ws, w.bytes ≠ [] → m.layout.Covers w.addr w.bytes.length := by
  refine (forList_rel (R := fun es u => u.layout = m.layout ∧
    ∀ w ∈ es, w.bytes ≠ [] → m.layout.Covers w.addr w.bytes.length)
    ⟨rfl, List.forall_mem_nil _⟩ ?_ h).2
  intro es u u' w _ hu hnext
  refine ⟨(bootWrite_next hnext).1.trans hu.1, ?_⟩
  rw [List.forall_mem_append, List.forall_mem_singleton]
  refine ⟨hu.2, fun hne => ?_⟩
  rw [bootWrite] at hnext
  rw [← hu.1, ← vm.writeSlice_ok_iff u w.addr w.bytes hne]
  rcases hw : vm.writeSlice u w.addr w.bytes with ⟨v, e | _⟩
  · rw [hw] at hnext
    cases hnext
  · rfl

/-- A call that returns `Ok` has gone through all of its phases. -/
theorem loadElf_eq_ok {buffer : List UInt8} {elf : Elf} {m m' : GuestMemory} {cmdline : String}
    {loader : KernelLoader} (h : loadElf vm buffer elf m cmdline = (m', .ok loader)) :
    ∃ m₁, forList (loadSegment vm buffer) elf.programHeaders m = (m₁, none) ∧
      forList (bootWrite vm) (bootWrites cmdline) m₁ = (m', none) ∧
      loader = { entryPoint := elf.entry, cmdline } := by
  unfold loadElf at h
  rcases hseg : forList (loadSegment vm buffer) elf.programHeaders m with ⟨m₁, _ | r⟩
  · simp only [hseg] at h
    rcases hboot : forList (bootWrite vm) (bootWrites cmdline) m₁ with ⟨m₂, _ | e⟩
    · simp only [hboot] at h
      rcases hread : vm.readSlice m₂ elf.entry.toNat (List.replicate 16 0) with ⟨buf, e | u⟩
      · simp only [hread] at h
        cases (Prod.mk.inj h).2
      · simp only [hread] at h
        obtain ⟨rfl, hres⟩ := Prod.mk.inj h
        exact ⟨m₁, rfl, hboot, (Outcome.ok.inj hres).symm⟩
    · simp only [hboot] at h
      cases (Prod.mk.inj h).2
  · simp only [hseg] at h
    cases r with
    | ok x => exact x.elim
    | err e => cases (Prod.mk.inj h).2
    | panic => cases (Prod.mk.inj h).2

/-- **The memory image after loading**: when the loader returns `Ok`, memory is as before
except for the blocks of the file and those at fixed addresses, written in this order. -/
theorem loadElf_ok {buffer : List UInt8} {elf : Elf} {m m' : GuestMemory} {cmdline : String}
    {loader : KernelLoader} (h : loadElf vm buffer elf m cmdline = (m', .ok loader)) :
    m'.layout = m.layout ∧ m'.bytes = patches m.bytes (loadedBlocks buffer elf cmdline) ∧
      loader = { entryPoint := elf.entry, cmdline } := by
  obtain ⟨m₁, hseg, hboot, hloader⟩ := loadElf_eq_ok h
  obtain ⟨hL₁, hb₁⟩ := loadSegments_ok hseg
  obtain ⟨hL₂, hb₂⟩ := bootWrites_ok hboot
  refine ⟨hL₂.trans hL₁, ?_, hloader⟩
  rw [loadedBlocks, patches_append, ← hb₁, bootBlocks]
  exact hb₂

/-- A successful call of `load_kernel` has read and parsed its file. -/
theorem KernelLoader.loadKernel_eq_ok {files : KernelFiles} {m m' : GuestMemory}
    {kernelPath cmdline : String} {loader : KernelLoader}
    (h : KernelLoader.loadKernel vm files m kernelPath cmdline = (m', .ok loader)) :
    ∃ buffer elf, files.readFile kernelPath = .ok buffer ∧ files.parse buffer = .ok elf ∧
      loadElf vm buffer elf m cmdline = (m', .ok loader) := by
  unfold KernelLoader.loadKernel at h
  cases hread : files.readFile kernelPath with
  | error e => simp only [hread] at h; cases (Prod.mk.inj h).2
  | ok buffer =>
      cases hparse : files.parse buffer with
      | error e => simp only [hread, hparse] at h; cases (Prod.mk.inj h).2
      | ok elf =>
          simp only [hread, hparse] at h
          exact ⟨buffer, elf, rfl, hparse, h⟩

/-- What a successful call of `load_kernel` has read, written and returned. -/
theorem KernelLoader.loadKernel_ok {files : KernelFiles} {m m' : GuestMemory}
    {kernelPath cmdline : String} {loader : KernelLoader}
    (h : KernelLoader.loadKernel vm files m kernelPath cmdline = (m', .ok loader)) :
    ∃ buffer elf, files.readFile kernelPath = .ok buffer ∧ files.parse buffer = .ok elf ∧
      m'.layout = m.layout ∧ m'.bytes = patches m.bytes (loadedBlocks buffer elf cmdline) ∧
      loader = { entryPoint := elf.entry, cmdline } := by
  obtain ⟨buffer, elf, hread, hparse, helf⟩ := loadKernel_eq_ok h
  exact ⟨buffer, elf, hread, hparse, loadElf_ok helf⟩

/-! ### When loading succeeds -/

/-- The file fits into a memory of this layout: its segments lie inside the file, every
block is backed, and so are sixteen bytes at the entry point. -/
structure Loadable (L : Layout) (buffer : List UInt8) (elf : Elf) (cmdline : String) :
    Prop where
  inside : ∀ phdr ∈ elf.programHeaders, phdr.pType = ptLoad →
    phdr.pOffset.toNat ≤ phdr.fileEnd ∧ phdr.fileEnd ≤ buffer.length
  nonempty : ∀ w ∈ segmentBlocks buffer elf.programHeaders, w.2 ≠ []
  covers : ∀ w ∈ loadedBlocks buffer elf cmdline, L.Covers w.1 w.2.length
  entry : L.Covers elf.entry.toNat 16

/-- Six pages are cleared for the page tables. -/
theorem length_zeroPages : zeroPages.length = 0x6000 :=
  List.length_replicate

/-- The zero page is one page. -/
theorem length_bootParams : bootParams.length = 4096 := by
  have hstore : ∀ {page : List UInt8} {off w n : ℕ}, page.length = 4096 → off + w ≤ 4096 →
      (store page off (leBytes w n)).length = 4096 := fun h hw =>
    (length_store_of_le (by rw [h, length_leBytes]; exact hw)).trans h
  have hset : ∀ {page : List UInt8} {off : ℕ} {b : UInt8}, page.length = 4096 →
      (page.set off b).length = 4096 := fun h => List.length_set.trans h
  unfold bootParams
  refine hstore (hstore (hstore (hset (hstore (hset List.length_replicate) ?_)) ?_) ?_) ?_
  all_goals decide

/-- The command line has at least its NUL. -/
theorem cmdlineBytes_length_pos (cmdline : String) : 0 < (cmdlineBytes cmdline).length := by
  rw [cmdlineBytes, List.flatMap_append, List.length_append]
  exact Nat.lt_add_left _ (by decide)

/-- The blocks at fixed addresses are not empty, and the command line is the topmost. -/
theorem bootWrites_fit (cmdline : String) : ∀ w ∈ bootWrites cmdline, 0 < w.bytes.length ∧
    w.addr + w.bytes.length ≤ cmdlineAddr + (cmdlineBytes cmdline).length := by
  have hpos := cmdlineBytes_length_pos cmdline
  have hcmd : cmdlineAddr = 0x10000 := rfl
  -- all blocks but the command line itself end below it
  have hbelow : ∀ (w : BootWrite) (n : ℕ), w.bytes.length = n → 0 < n →
      w.addr + n ≤ 0x10000 → 0 < w.bytes.length ∧
        w.addr + w.bytes.length ≤ cmdlineAddr + (cmdlineBytes cmdline).length := by
    intro w n hlen hn haddr
    omega
  intro w hw
  simp only [bootWrites, pageTables, List.mem_append, List.mem_cons, List.mem_map,
    List.mem_range, List.not_mem_nil, or_false] at hw
  rcases hw with (((rfl | rfl) | ⟨i, hi, rfl⟩) | ⟨i, hi, rfl⟩) | rfl | rfl
  · exact hbelow _ _ length_zeroPages (by decide) (by decide)
  · exact hbelow _ _ (length_leBytes _ _) (by decide) (by decide)
  · have haddr : (pdpteWrite i).addr = 0xa000 + i * 8 := rfl
    exact hbelow _ _ (length_leBytes _ _) (by decide) (by omega)
  · have haddr : (pdeWrite i).addr = 0xb000 + i * 8 := rfl
    exact hbelow _ _ (length_leBytes _ _) (by decide) (by omega)
  · exact ⟨hpos, Nat.le_refl _⟩
  · exact hbelow _ _ length_bootParams (by decide) (by decide)

/-- A file whose segments, command line and entry point lie below the end of memory fits. -/
theorem Loadable.of_below {L : Layout} {buffer : List UInt8} {elf : Elf} {cmdline : String} {n : ℕ}
    (hcov : ∀ a k, a + k ≤ n → L.Covers a k)
    (inside : ∀ phdr ∈ elf.programHeaders, phdr.pType = ptLoad →
      phdr.pOffset.toNat ≤ phdr.fileEnd ∧ phdr.fileEnd ≤ buffer.length)
    (hseg : ∀ w ∈ segmentBlocks buffer elf.programHeaders, w.2 ≠ [] ∧ w.1 + w.2.length ≤ n)
    (hcmd : cmdlineAddr + (cmdlineBytes cmdline).length ≤ n) (hentry : elf.entry.toNat + 16 ≤ n) :
    Loadable L buffer elf cmdline where
  inside := inside
  nonempty w hw := (hseg w hw).1
  covers w hw := by
    rcases List.mem_append.mp hw with hw | hw
    · exact hcov _ _ (hseg w hw).2
    · obtain ⟨b, hb, rfl⟩ := List.mem_map.mp hw
      exact hcov _ _ (Nat.le_trans (bootWrites_fit cmdline b hb).2 hcmd)
  entry := hcov _ _ hentry

/-- The command line is in memory when the loader is done: the zero page, which is written
after it, lies below. -/
theorem slice_loadedBlocks_cmdline (f : ℕ → UInt8) (buffer : List UInt8) (elf : Elf)
    (cmdline : String) :
    slice (patches f (loadedBlocks buffer elf cmdline)) cmdlineAddr
      (cmdlineBytes cmdline).length = cmdlineBytes cmdline := by
  rw [loadedBlocks, bootBlocks, bootWrites, List.map_append, ← List.append_assoc,
    patches_append]
  simp only [List.map_cons, List.map_nil, patches_cons, patches_nil]
  have hbelow : bootParamsAddr + bootParams.length ≤ cmdlineAddr := by
    rw [length_bootParams]
    decide
  rw [slice_patch_of_disjoint (Or.inr hbelow), slice_patch_self]

/-- The zero page is in memory when the loader is done: it is written last. -/
theorem slice_loadedBlocks_bootParams (f : ℕ → UInt8) (buffer : List UInt8) (elf : Elf)
    (cmdline : String) :
    slice (patches f (loadedBlocks buffer elf cmdline)) bootParamsAddr 4096 = bootParams := by
  rw [loadedBlocks, bootBlocks, bootWrites, List.map_append, ← List.append_assoc,
    patches_append]
  simp only [List.map_cons, List.map_nil, patches_cons, patches_nil]
  have hself := slice_patch_self (patch (patches f (segmentBlocks buffer elf.programHeaders ++
    pageTables.map fun w => (w.addr, w.bytes))) cmdlineAddr (cmdlineBytes cmdline))
    bootParamsAddr bootParams
  rwa [length_bootParams] at hself

section Loadable

variable {buffer : List UInt8} {elf : Elf} {cmdline : String} {L : Layout} {m : GuestMemory}

/-- A segment that is in the file and fits is loaded. -/
theorem Loadable.loadSegment (vm : VmMemory) (h : Loadable L buffer elf cmdline)
    {phdr : ProgramHeader} (hphdr : phdr ∈ elf.programHeaders) (hm : m.layout = L) :
    ∃ m', loadSegment vm buffer m phdr = .next m' ∧ m'.layout = L := by
  unfold MoVm.loadSegment
  by_cases hload : phdr.pType = ptLoad
  · obtain ⟨hlo, hhi⟩ := h.inside phdr hphdr hload
    have hblock : (phdr.pPaddr.toNat, phdr.fileBytes buffer) ∈
        segmentBlocks buffer elf.programHeaders :=
      List.mem_map_of_mem (List.mem_filter.mpr ⟨hphdr, decide_eq_true hload⟩)
    have hcov := h.covers _ (List.mem_append_left _ hblock)
    rw [← hm] at hcov
    obtain ⟨m', hw, hL⟩ := vm.writeSlice_covered (h.nonempty _ hblock) hcov
    rw [if_pos hload, if_neg (by omega), if_neg (by omega), hw]
    exact ⟨m', rfl, hL.trans hm⟩
  · rw [if_neg hload]
    exact ⟨m, rfl, hm⟩

/-- A block at a fixed address that fits is written. -/
theorem Loadable.bootWrite (vm : VmMemory) (h : Loadable L buffer elf cmdline)
    {w : BootWrite} (hw : w ∈ bootWrites cmdline) (hm : m.layout = L) :
    ∃ m', bootWrite vm m w = .next m' ∧ m'.layout = L := by
  have hcov := h.covers (w.addr, w.bytes) (List.mem_append_right _ (List.mem_map_of_mem hw))
  have hne := List.length_pos_iff.mp (bootWrites_fit cmdline w hw).1
  exact bootWrite_covered vm hne hcov hm

/-- The loader succeeds on a file that fits. -/
theorem loadElf_of_loadable (vm : VmMemory) (h : Loadable m.layout buffer elf cmdline) :
    ∃ m', loadElf vm buffer elf m cmdline =
      (m', .ok { entryPoint := elf.entry, cmdline }) := by
  obtain ⟨m₁, h₁, hL₁⟩ :=
    forList_ends (fun _ _ hphdr hu => h.loadSegment vm hphdr hu) (rfl : m.layout = m.layout)
  obtain ⟨m₂, h₂, hL₂⟩ := forList_ends (fun _ _ hw hu => h.bootWrite vm hw hu) hL₁
  have hread := (vm.readSlice_ok_iff m₂ elf.entry.toNat (List.replicate 16 0)
    (List.cons_ne_nil _ _)).mpr (hL₂ ▸ h.entry)
  refine ⟨m₂, ?_⟩
  rw [loadElf, h₁]
  simp only [h₂]
  generalize vm.readSlice m₂ elf.entry.toNat (List.replicate 16 0) = p at hread
  obtain ⟨buf, r⟩ := p
  obtain rfl : r = .ok () := hread
  rfl

end Loadable

/-! ### A kernel that loads -/

/-- A kernel of two bytes, loaded and entered at 1 MB. -/
def KernelFiles.twoBytes : KernelFiles where
  readFile _ := .ok [0x55, 0xAA]
  parse _ := .ok
    { entry := 0x100000
      programHeaders :=
        [{ pType := ptLoad, pOffset := 0, pPaddr := 0x100000, pFilesz := 2, pMemsz := 2 }] }

/-- Two megabytes of memory, filled with one byte. -/
def GuestMemory.ram (b : UInt8) : GuestMemory where
  layout := ⟨[⟨0, 0x200000, by decide, by decide⟩], List.pairwise_singleton _ _⟩
  bytes _ := b

/-- Two megabytes are covered. -/
theorem GuestMemory.ram_covers (b : UInt8) (a n : ℕ) (h : a + n ≤ 0x200000) :
    (GuestMemory.ram b).layout.Covers a n :=
  Layout.covers_of_mem (List.mem_singleton_self _) (Nat.zero_le a) (by simpa using h)

/-- The kernel of two bytes is loaded into them. -/
theorem loadKernel_twoBytes (vm : VmMemory) (b : UInt8) :
    ∃ m', KernelLoader.loadKernel vm .twoBytes (.ram b) "vmlinux" "" =
      (m', .ok { entryPoint := 0x100000, cmdline := "" }) :=
  loadElf_of_loadable vm
    (.of_below (GuestMemory.ram_covers b) (by decide) (by decide) (by decide) (by decide))

end MoVm
