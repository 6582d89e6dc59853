import MoVm.KernelLoader

/-!
# The Memory Image After Loading a Kernel

Outside the areas at fixed addresses, memory after a successful `load_kernel` is what the
segments of the file make it: segments may overlap each other in any way, and the last one in
program header order that holds an address decides its byte.

A file that loads has all of its segments inside it: a header whose end wraps around ends
before it starts, so the loader does not get past it (`fileEnd_eq`).

## Main results

* `loadKernel_image`: the byte at every address outside the fixed areas.
* `loadElf_filter`: headers of other types have no effect.
* `loadKernel_intact_iff`: when all bytes of the file are still in place after loading.
* `loadKernel_tails_zero_iff`: the part of a segment that is not in the file is neither
  cleared nor checked, so it reads zero after loading when it did so before.
-/

open Lib

namespace MoVm

/-! ### Segments and areas -/

/-- The address lies in the part of a `PT_LOAD` segment that comes from the file. -/
def ProgramHeader.Holds (phdr : ProgramHeader) (a : ℕ) : Prop :=
  phdr.pType = ptLoad ∧ phdr.pPaddr.toNat ≤ a ∧ a < phdr.pPaddr.toNat + phdr.pFilesz.toNat

instance (phdr : ProgramHeader) (a : ℕ) : Decidable (phdr.Holds a) :=
  inferInstanceAs (Decidable (_ ∧ _))

/-- The last segment, in program header order, that holds the address. -/
def Elf.lastSegment (elf : Elf) (a : ℕ) : Option ProgramHeader :=
  elf.programHeaders.reverse.find? fun phdr => phdr.Holds a

theorem Elf.lastSegment_some {elf : Elf} {a : ℕ} {phdr : ProgramHeader}
    (h : elf.lastSegment a = some phdr) : phdr ∈ elf.programHeaders ∧ phdr.Holds a := by
  rw [lastSegment] at h
  exact ⟨List.mem_reverse.mp (List.mem_of_find?_eq_some h),
    of_decide_eq_true (List.find?_some (p := fun x : ProgramHeader => decide (x.Holds a)) h)⟩

/-- The file with its `PT_LOAD` headers only. -/
def Elf.loadable (elf : Elf) : Elf :=
  { elf with programHeaders := elf.programHeaders.filter fun phdr => phdr.pType = ptLoad }

/-- The zero page, the page tables and the command line with its NUL byte. -/
def BootArea (cmdline : String) (a : ℕ) : Prop :=
  (0x7000 ≤ a ∧ a < 0x8000) ∨ (0x9000 ≤ a ∧ a < 0xF000) ∨
    (0x10000 ≤ a ∧ a < 0x10000 + cmdline.utf8ByteSize + 1)

instance (cmdline : String) (a : ℕ) : Decidable (BootArea cmdline a) :=
  inferInstanceAs (Decidable (_ ∨ _ ∨ _))

theorem length_cmdlineBytes (cmdline : String) :
    (cmdlineBytes cmdline).length = cmdline.utf8ByteSize + 1 := by
  have hsize : cmdline.utf8ByteSize = (cmdline.toList.flatMap String.utf8EncodeChar).length := by
    show cmdline.toByteArray.size = _
    rw [← String.utf8Encode_toList, List.utf8Encode, List.size_toByteArray]
  rw [cmdlineBytes, List.flatMap_append, List.length_append, hsize]
  rfl

/-- All writes at fixed addresses stay inside the areas. -/
theorem bootWrites_area (cmdline : String) :
    ∀ w ∈ bootWrites cmdline, ∀ a, w.addr ≤ a → a < w.addr + w.bytes.length →
      BootArea cmdline a := by
  have hcmd : cmdlineAddr = 0x10000 := rfl
  have htables : ∀ (w : BootWrite) (n : ℕ), w.bytes.length = n → 0x9000 ≤ w.addr →
      w.addr + n ≤ 0xF000 → ∀ a, w.addr ≤ a → a < w.addr + w.bytes.length →
        BootArea cmdline a := by
    intro w n hlen hlo hhi a ha ha'
    exact Or.inr (Or.inl ⟨by omega, by omega⟩)
  intro w hw
  simp only [bootWrites, pageTables, List.mem_append, List.mem_cons, List.mem_map,
    List.mem_range, List.not_mem_nil, or_false] at hw
  rcases hw with (((rfl | rfl) | ⟨i, hi, rfl⟩) | ⟨i, hi, rfl⟩) | rfl | rfl
  · exact htables _ _ length_zeroPages (by decide) (by decide)
  · exact htables _ _ (length_leBytes _ _) (by decide) (by decide)
  · have haddr : (pdpteWrite i).addr = 0xa000 + i * 8 := rfl
    exact htables _ _ (length_leBytes _ _) (by omega) (by omega)
  · have haddr : (pdeWrite i).addr = 0xb000 + i * 8 := rfl
    exact htables _ _ (length_leBytes _ _) (by omega) (by omega)
  · intro a ha ha'
    simp only [length_cmdlineBytes] at ha ha'
    exact Or.inr (Or.inr ⟨by omega, by omega⟩)
  · intro a ha ha'
    have haddr : bootParamsAddr = 0x7000 := rfl
    simp only [length_bootParams] at ha ha'
    exact Or.inl ⟨by omega, by omega⟩

variable {vm : VmMemory}

/-! ### Segments of a file that loads -/

/-- A segment the loop goes on after lies inside the file. -/
theorem loadSegment_inside {buffer : List UInt8} {m m' : GuestMemory} {phdr : ProgramHeader}
    (h : loadSegment vm buffer m phdr = .next m') (hload : phdr.pType = ptLoad) :
    phdr.pOffset.toNat ≤ phdr.fileEnd ∧ phdr.fileEnd ≤ buffer.length := by
  rw [loadSegment, if_pos hload] at h
  split at h
  · cases h
  split at h
  · cases h
  exact ⟨by omega, by omega⟩

theorem loadSegments_inside {buffer : List UInt8} {phdrs : List ProgramHeader}
    {m m' : GuestMemory} (h : forList (loadSegment vm buffer) phdrs m = (m', none)) :
    ∀ phdr ∈ phdrs, phdr.pType = ptLoad →
      phdr.pOffset.toNat ≤ phdr.fileEnd ∧ phdr.fileEnd ≤ buffer.length := by
  refine forList_rel (R := fun es _ => ∀ phdr ∈ es, phdr.pType = ptLoad →
    phdr.pOffset.toNat ≤ phdr.fileEnd ∧ phdr.fileEnd ≤ buffer.length)
    (List.forall_mem_nil _) ?_ h
  intro es u u' phdr _ hes hnext
  rw [List.forall_mem_append, List.forall_mem_singleton]
  exact ⟨hes, loadSegment_inside hnext⟩

/-- A range that does not end before it starts has not wrapped around. -/
theorem ProgramHeader.fileEnd_eq {phdr : ProgramHeader}
    (h : phdr.pOffset.toNat ≤ phdr.fileEnd) :
    phdr.fileEnd = phdr.pOffset.toNat + phdr.pFilesz.toNat := by
  have hoff := phdr.pOffset.toNat_lt
  have hsz := phdr.pFilesz.toNat_lt
  rw [fileEnd, UInt64.toNat_add] at h ⊢
  omega

theorem ProgramHeader.length_fileBytes {phdr : ProgramHeader} {buffer : List UInt8}
    (h : phdr.pOffset.toNat ≤ phdr.fileEnd ∧ phdr.fileEnd ≤ buffer.length) :
    (phdr.fileBytes buffer).length = phdr.pFilesz.toNat := by
  have hend := fileEnd_eq h.1
  rw [fileBytes, load, List.length_take, List.length_drop]
  omega

theorem ProgramHeader.getElem?_fileBytes {phdr : ProgramHeader} {buffer : List UInt8} {i : ℕ}
    (h : phdr.pOffset.toNat ≤ phdr.fileEnd) (hi : i < phdr.pFilesz.toNat) :
    (phdr.fileBytes buffer)[i]? = buffer[phdr.pOffset.toNat + i]? := by
  have hend := fileEnd_eq h
  rw [fileBytes, load, List.getElem?_take_of_lt (by omega), List.getElem?_drop]

/-- The last block that covers an address is that of the last segment that holds it. -/
theorem lastWrite_segmentBlocks {buffer : List UInt8} {elf : Elf}
    (h : ∀ phdr ∈ elf.programHeaders, phdr.pType = ptLoad →
      phdr.pOffset.toNat ≤ phdr.fileEnd ∧ phdr.fileEnd ≤ buffer.length) (a : ℕ) :
    lastWrite (segmentBlocks buffer elf.programHeaders) a = (elf.lastSegment a).bind fun phdr =>
      buffer[phdr.pOffset.toNat + (a - phdr.pPaddr.toNat)]? := by
  rw [lastWrite_eq_find, segmentBlocks, ← List.map_reverse, ← List.filter_reverse, List.find?_map,
    List.find?_filter, Option.bind_map]
  have hfind : ∀ p : ProgramHeader → Bool,
      (∀ phdr ∈ elf.programHeaders.reverse, p phdr = decide (phdr.Holds a)) →
        elf.programHeaders.reverse.find? p = elf.lastSegment a :=
    fun _ hp => List.find?_congr hp
  -- a block covers the address exactly when its segment holds it
  rw [hfind]
  · cases hlast : elf.lastSegment a with
    | none => rfl
    | some phdr =>
        obtain ⟨hmem, hload, hlo, hhi⟩ := Elf.lastSegment_some hlast
        have hin := h phdr hmem hload
        simp only [Option.bind_some, Function.comp_apply]
        exact ProgramHeader.getElem?_fileBytes hin.1 (by omega)
  · intro phdr hphdr
    simp only [Function.comp_apply, decide_eq_true_eq]
    refine decide_eq_decide.mpr (and_congr_right fun hload => ?_)
    rw [ProgramHeader.length_fileBytes (h phdr (List.mem_reverse.mp hphdr) hload)]

/-! ### The image -/

/-- Headers of other types have no effect. -/
theorem loadElf_filter (vm : VmMemory) (buffer : List UInt8) (elf : Elf) (m : GuestMemory)
    (cmdline : String) :
    loadElf vm buffer elf.loadable m cmdline = loadElf vm buffer elf m cmdline := by
  have hskip : ∀ (u : GuestMemory) (phdr : ProgramHeader), decide (phdr.pType = ptLoad) = false →
      loadSegment vm buffer u phdr = .next u := by
    intro u phdr hphdr
    rw [loadSegment, if_neg (of_decide_eq_false hphdr)]
  rw [loadElf, Elf.loadable, forList_filter hskip]
  rfl

/-- What a file that loads has in its segments. -/
theorem loadElf_inside {buffer : List UInt8} {elf : Elf} {m m' : GuestMemory} {cmdline : String}
    {loader : KernelLoader} (h : loadElf vm buffer elf m cmdline = (m', .ok loader)) :
    ∀ phdr ∈ elf.programHeaders, phdr.pType = ptLoad →
      phdr.pOffset.toNat ≤ phdr.fileEnd ∧ phdr.fileEnd ≤ buffer.length := by
  obtain ⟨m₁, hseg, -, -⟩ := loadElf_eq_ok h
  exact loadSegments_inside hseg

/-- The blocks at fixed addresses leave every address outside their areas alone. -/
theorem patches_bootBlocks {f : ℕ → UInt8} {cmdline : String} {a : ℕ}
    (ha : ¬BootArea cmdline a) : patches f (bootBlocks cmdline) a = f a := by
  refine patches_of_notMem fun w hw hcov => ?_
  obtain ⟨bw, hbw, rfl⟩ := List.mem_map.mp hw
  exact ha (bootWrites_area cmdline bw hbw a hcov.1 hcov.2)

/-- The byte at an address outside the fixed areas: the file's, where a segment holds the
address. -/
theorem loadElf_byte {buffer : List UInt8} {elf : Elf} {m m' : GuestMemory} {cmdline : String}
    {loader : KernelLoader} (h : loadElf vm buffer elf m cmdline = (m', .ok loader)) {a : ℕ}
    (ha : ¬BootArea cmdline a) :
    m'.bytes a = ((elf.lastSegment a).bind fun phdr =>
      buffer[phdr.pOffset.toNat + (a - phdr.pPaddr.toNat)]?).getD (m.bytes a) := by
  obtain ⟨-, hbytes, -⟩ := loadElf_ok h
  rw [hbytes, loadedBlocks, patches_append, patches_bootBlocks ha, patches_apply,
    lastWrite_segmentBlocks (loadElf_inside h)]

/-- **The memory image after loading a kernel**: outside the areas at fixed addresses, the
byte at an address that some segment holds is the byte of the file that the last such segment
puts there, and every other byte is unchanged. Headers of other types have no effect, and the
entry point is that of the file. -/
theorem loadKernel_image {files : KernelFiles} {m m' : GuestMemory} {kernelPath cmdline : String}
    {loader : KernelLoader}
    (h : KernelLoader.loadKernel vm files m kernelPath cmdline = (m', .ok loader)) :
    ∃ buffer elf, files.readFile kernelPath = .ok buffer ∧ files.parse buffer = .ok elf ∧
      loader.entryPoint = elf.entry ∧
      loadElf vm buffer elf.loadable m cmdline = (m', .ok loader) ∧
      ∀ a, ¬BootArea cmdline a →
        (∀ phdr, elf.lastSegment a = some phdr →
          buffer[phdr.pOffset.toNat + (a - phdr.pPaddr.toNat)]? = some (m'.bytes a)) ∧
        (elf.lastSegment a = none → m'.bytes a = m.bytes a) := by
  obtain ⟨buffer, elf, hread, hparse, helf⟩ := KernelLoader.loadKernel_eq_ok h
  obtain ⟨-, -, hloader⟩ := loadElf_ok helf
  have hin := loadElf_inside helf
  refine ⟨buffer, elf, hread, hparse, by rw [hloader], by rw [loadElf_filter, helf], ?_⟩
  intro a ha
  have hbyte := loadElf_byte helf ha
  constructor
  · intro phdr hlast
    obtain ⟨hmem, hload, hlo, hhi⟩ := Elf.lastSegment_some hlast
    have hend := ProgramHeader.fileEnd_eq (hin phdr hmem hload).1
    have hlen := (hin phdr hmem hload).2
    rw [hbyte, hlast, Option.bind_some, List.getElem?_eq_getElem (by omega), Option.getD_some]
  · intro hnone
    rw [hbyte, hnone, Option.bind_none, Option.getD_none]

theorem loadKernel_image_twoBytes :
    ∃ m' loader, KernelLoader.loadKernel VmMemory.mmap .twoBytes (.ram 7) "vmlinux" "" =
        (m', .ok loader) ∧ m'.bytes 0x100001 = 0xAA ∧ m'.bytes 0x100002 = 7 := by
  obtain ⟨m', h⟩ := loadKernel_twoBytes VmMemory.mmap 7
  obtain ⟨buffer, elf, hread, hparse, -, -, himage⟩ := loadKernel_image h
  obtain rfl := Except.ok.inj hread
  obtain rfl := Except.ok.inj hparse
  refine ⟨m', _, h, ?_, ?_⟩
  · have hbyte := (himage 0x100001 (by decide)).1 _ rfl
    exact (Option.some.inj hbyte).symm
  · exact (himage 0x100002 (by decide)).2 rfl

/-! ### Uninitialised data -/

/-- The address lies in the range in memory of a `PT_LOAD` segment. -/
def ProgramHeader.Spans (phdr : ProgramHeader) (a : ℕ) : Prop :=
  phdr.pType = ptLoad ∧ phdr.pPaddr.toNat ≤ a ∧ a < phdr.pPaddr.toNat + phdr.pMemsz.toNat

/-- The address lies in the part of a `PT_LOAD` segment that is not in the file. -/
def ProgramHeader.InTail (phdr : ProgramHeader) (a : ℕ) : Prop :=
  phdr.pType = ptLoad ∧ phdr.pPaddr.toNat + phdr.pFilesz.toNat ≤ a ∧
    a < phdr.pPaddr.toNat + phdr.pMemsz.toNat

/-- The segments share no address in memory with each other. -/
def Elf.DisjointSegments (elf : Elf) : Prop :=
  elf.loadable.programHeaders.Pairwise fun p q => ∀ a, ¬(p.Spans a ∧ q.Spans a)

/-- An address lies in one segment at most. -/
theorem Elf.DisjointSegments.eq_of_spans {elf : Elf} (h : elf.DisjointSegments)
    {p q : ProgramHeader} (hp : p ∈ elf.programHeaders) (hq : q ∈ elf.programHeaders) {a : ℕ}
    (hpa : p.Spans a) (hqa : q.Spans a) : p = q := by
  by_contra hne
  have hsymm : Std.Symm fun p q : ProgramHeader => ∀ a, ¬(p.Spans a ∧ q.Spans a) :=
    ⟨fun p q h a ha => h a ha.symm⟩
  have hin : ∀ x ∈ elf.programHeaders, x.Spans a → x ∈ elf.loadable.programHeaders :=
    fun x hx hxa => List.mem_filter.mpr ⟨hx, decide_eq_true hxa.1⟩
  exact List.Pairwise.forall h (hin p hp hpa) (hin q hq hqa) hne a ⟨hpa, hqa⟩

/-- Every segment is at least as large in memory as in the file, and the segments share no
address with each other or with the areas at fixed addresses. -/
structure Elf.SeparateSegments (elf : Elf) (cmdline : String) : Prop where
  filesz_le : ∀ phdr ∈ elf.programHeaders, phdr.pType = ptLoad → phdr.pFilesz ≤ phdr.pMemsz
  disjoint : elf.DisjointSegments
  boot : ∀ phdr ∈ elf.programHeaders, ∀ a, phdr.Spans a → ¬BootArea cmdline a

/-- All uninitialised data exists in guest memory and is zero. -/
def Elf.TailsZero (elf : Elf) (m : GuestMemory) : Prop :=
  ∀ phdr ∈ elf.programHeaders, ∀ a, phdr.InTail a → m.layout.Backed a ∧ m.bytes a = 0

theorem ProgramHeader.InTail.spans {phdr : ProgramHeader} {a : ℕ} (h : phdr.InTail a) :
    phdr.Spans a := by
  obtain ⟨hload, hlo, hhi⟩ := h
  exact ⟨hload, by omega, hhi⟩

/-- No segment holds an address of the uninitialised data of another. -/
theorem Elf.SeparateSegments.lastSegment_tail {elf : Elf} {cmdline : String}
    (hsep : elf.SeparateSegments cmdline) {phdr : ProgramHeader} (hphdr : phdr ∈ elf.programHeaders)
    {a : ℕ} (htail : phdr.InTail a) : elf.lastSegment a = none := by
  by_contra hne
  obtain ⟨q, hq⟩ := Option.ne_none_iff_exists'.mp hne
  obtain ⟨hmem, hload, hlo, hhi⟩ := lastSegment_some hq
  have hsize : q.pFilesz.toNat ≤ q.pMemsz.toNat := hsep.filesz_le q hmem hload
  have hspans : q.Spans a := ⟨hload, hlo, by omega⟩
  obtain rfl := hsep.disjoint.eq_of_spans hphdr hmem htail.spans hspans
  obtain ⟨-, htlo, -⟩ := htail
  omega

/-- **Uninitialised data after loading a kernel**: the loader writes the bytes of the file and
looks at nothing else of a segment, so the rest of it exists and is zero after the call exactly
when that was so before the call. -/
theorem loadKernel_tails_zero_iff {files : KernelFiles} {m m' : GuestMemory}
    {kernelPath cmdline : String} {loader : KernelLoader} {buffer : List UInt8} {elf : Elf}
    (hread : files.readFile kernelPath = .ok buffer) (hparse : files.parse buffer = .ok elf)
    (hsep : elf.SeparateSegments cmdline)
    (h : KernelLoader.loadKernel vm files m kernelPath cmdline = (m', .ok loader)) :
    elf.TailsZero m' ↔ elf.TailsZero m := by
  obtain ⟨buffer', elf', hread', hparse', helf⟩ := KernelLoader.loadKernel_eq_ok h
  obtain rfl := Except.ok.inj (hread.symm.trans hread')
  obtain rfl := Except.ok.inj (hparse.symm.trans hparse')
  obtain ⟨hlayout, -, -⟩ := loadElf_ok helf
  refine forall₂_congr fun phdr hphdr => forall₂_congr fun a htail => ?_
  rw [hlayout, loadElf_byte helf (hsep.boot phdr hphdr a htail.spans),
    hsep.lastSegment_tail hphdr htail, Option.bind_none, Option.getD_none]

/-- A kernel of two bytes that asks for one megabyte and a byte of memory. -/
def KernelFiles.longTail : KernelFiles where
  readFile _ := .ok [0x55, 0xAA]
  parse _ := .ok
    { entry := 0x100000
      programHeaders :=
        [{ pType := ptLoad, pOffset := 0, pPaddr := 0x100000, pFilesz := 2, pMemsz := 0x100001 }] }

theorem loadKernel_longTail (vm : VmMemory) (b : UInt8) :
    ∃ m', KernelLoader.loadKernel vm .longTail (.ram b) "vmlinux" "" =
      (m', .ok { entryPoint := 0x100000, cmdline := "" }) :=
  loadElf_of_loadable vm
    (.of_below (GuestMemory.ram_covers b) (by decide) (by decide) (by decide) (by decide))

/-- A single segment above the boot areas is separate from everything. -/
theorem Elf.SeparateSegments.single {entry : UInt64} {phdr : ProgramHeader}
    (hsize : phdr.pFilesz ≤ phdr.pMemsz) (haddr : 0x10001 ≤ phdr.pPaddr.toNat) :
    Elf.SeparateSegments { entry, programHeaders := [phdr] } "" := by
  refine ⟨?_, ?_, ?_⟩
  · intro p hp _
    rw [List.mem_singleton.mp hp]
    exact hsize
  · exact List.Pairwise.filter (fun p => decide (p.pType = ptLoad)) (List.pairwise_singleton _ phdr)
  · rintro p hp a ⟨-, hlo, -⟩ harea
    rw [List.mem_singleton.mp hp] at hlo
    have hcmd : "".utf8ByteSize = 0 := rfl
    rw [BootArea, hcmd] at harea
    omega

/-- The bytes behind those of the file keep what was in memory, and the last one of them is not
in memory at all. -/
theorem loadKernel_stale_tail :
    ∃ m' loader elf, KernelFiles.longTail.parse [0x55, 0xAA] = .ok elf ∧
      elf.SeparateSegments "" ∧
      KernelLoader.loadKernel VmMemory.mmap .longTail (.ram 7) "vmlinux" "" = (m', .ok loader) ∧
      m'.bytes 0x100002 = 7 ∧ ¬m'.layout.Backed 0x200000 := by
  obtain ⟨m', h⟩ := loadKernel_longTail VmMemory.mmap 7
  obtain ⟨buffer, elf, hread, hparse, helf⟩ := KernelLoader.loadKernel_eq_ok h
  obtain rfl := Except.ok.inj hread
  obtain rfl := Except.ok.inj hparse
  refine ⟨m', _, _, rfl, ?_, h, ?_, ?_⟩
  · exact .single (by decide) (by decide)
  · rw [loadElf_byte helf (by decide)]
    rfl
  · rw [(loadElf_ok helf).1]
    decide

/-- A kernel of two bytes that asks for a page of memory. -/
def KernelFiles.shortTail : KernelFiles where
  readFile _ := .ok [0x55, 0xAA]
  parse _ := .ok
    { entry := 0x100000
      programHeaders :=
        [{ pType := ptLoad, pOffset := 0, pPaddr := 0x100000, pFilesz := 2, pMemsz := 0x1000 }] }

theorem loadKernel_shortTail (vm : VmMemory) (b : UInt8) :
    ∃ m', KernelLoader.loadKernel vm .shortTail (.ram b) "vmlinux" "" =
      (m', .ok { entryPoint := 0x100000, cmdline := "" }) :=
  loadElf_of_loadable vm
    (.of_below (GuestMemory.ram_covers b) (by decide) (by decide) (by decide) (by decide))

/-- In cleared memory, the rest of the page is zero after loading it. -/
theorem loadKernel_tails_zero_iff_cleared :
    ∃ m' loader elf, KernelFiles.shortTail.parse [0x55, 0xAA] = .ok elf ∧
      KernelLoader.loadKernel VmMemory.mmap .shortTail (.ram 0) "vmlinux" "" = (m', .ok loader) ∧
      elf.TailsZero m' ∧ (∃ phdr ∈ elf.programHeaders, phdr.InTail 0x100002) ∧
      m'.bytes 0x100001 = 0xAA := by
  obtain ⟨m', h⟩ := loadKernel_shortTail VmMemory.mmap 0
  obtain ⟨buffer, elf, hread, hparse, helf⟩ := KernelLoader.loadKernel_eq_ok h
  obtain rfl := Except.ok.inj hread
  obtain rfl := Except.ok.inj hparse
  refine ⟨m', _, _, rfl, h, (loadKernel_tails_zero_iff rfl rfl
    (.single (by decide) (by decide)) h).mpr ?_, ?_, ?_⟩
  · rintro phdr hphdr a ⟨-, -, hhi⟩
    obtain rfl := List.mem_singleton.mp hphdr
    have hend : a < 0x100000 + 0x1000 := hhi
    exact ⟨GuestMemory.ram_covers 0 a 1 (by omega) 0 (by decide), rfl⟩
  · exact ⟨_, List.mem_singleton_self _, rfl, by decide, by decide⟩
  · rw [loadElf_byte helf (by decide)]
    rfl

/-! ### Intact images -/

/-- The byte of the file that the segment puts at an address. -/
def ProgramHeader.byteAt (phdr : ProgramHeader) (buffer : List UInt8) (a : ℕ) : Option UInt8 :=
  buffer[phdr.pOffset.toNat + (a - phdr.pPaddr.toNat)]?

/-- The bytes of every `PT_LOAD` segment in the file are in guest memory, at its address. -/
def Elf.Intact (elf : Elf) (buffer : List UInt8) (m : GuestMemory) : Prop :=
  ∀ phdr ∈ elf.programHeaders, phdr.pType = ptLoad →
    m.layout.Covers phdr.pPaddr.toNat phdr.pFilesz.toNat ∧
      slice m.bytes phdr.pPaddr.toNat phdr.pFilesz.toNat =
        load buffer phdr.pOffset.toNat phdr.pFilesz.toNat

/-- What the page tables, the command line and the zero page put at an address. -/
def bootByte (cmdline : String) (a : ℕ) : Option UInt8 :=
  lastWrite (bootBlocks cmdline) a

/-- The file and the boot structures do not compete for an address, or only with the same byte.
Segments compete with each other when one of them is larger in the file than in memory. -/
structure Elf.KeepsImage (elf : Elf) (buffer : List UInt8) (cmdline : String) : Prop where
  boot : ∀ phdr ∈ elf.programHeaders, ∀ a, phdr.Holds a → ∀ b ∈ bootByte cmdline a,
    phdr.byteAt buffer a = some b
  overrun : ∀ phdr ∈ elf.programHeaders, ∀ a, phdr.Holds a → bootByte cmdline a = none →
    ∀ q ∈ elf.lastSegment a, phdr.pMemsz < phdr.pFilesz ∨ q.pMemsz < q.pFilesz →
      phdr.byteAt buffer a = q.byteAt buffer a

theorem bootByte_of_notMem {cmdline : String} {a : ℕ} (h : ¬BootArea cmdline a) :
    bootByte cmdline a = none := by
  rw [bootByte, lastWrite_eq_find, List.find?_eq_none.mpr, Option.bind_none]
  intro w hw hcov
  obtain ⟨bw, hbw, rfl⟩ := List.mem_map.mp (List.mem_reverse.mp hw)
  have hrange := of_decide_eq_true hcov
  exact h (bootWrites_area cmdline bw hbw a hrange.1 hrange.2)

/-- Segments away from the boot structures and from each other keep their image. -/
theorem Elf.SeparateSegments.keepsImage {elf : Elf} {cmdline : String}
    (hsep : elf.SeparateSegments cmdline) (buffer : List UInt8) :
    elf.KeepsImage buffer cmdline := by
  have hsize : ∀ phdr ∈ elf.programHeaders, phdr.pType = ptLoad →
    phdr.pFilesz.toNat ≤ phdr.pMemsz.toNat := hsep.filesz_le
  constructor
  · rintro phdr hphdr a ⟨hload, hlo, hhi⟩ b hb
    have hle := hsize phdr hphdr hload
    rw [bootByte_of_notMem (hsep.boot phdr hphdr a ⟨hload, hlo, by omega⟩)] at hb
    cases hb
  · rintro phdr hphdr a ⟨hload, -, -⟩ - q hq hover
    obtain ⟨hmem, hqload, -, -⟩ := lastSegment_some hq
    rcases hover with hover | hover
    · exact absurd (hsize phdr hphdr hload) (Nat.not_le.mpr hover)
    · exact absurd (hsize q hmem hqload) (Nat.not_le.mpr hover)

/-- Segments that have been written lie in memory. -/
theorem loadSegments_covers {buffer : List UInt8} {phdrs : List ProgramHeader}
    {m m' : GuestMemory} (h : forList (loadSegment vm buffer) phdrs m = (m', none)) :
    ∀ phdr ∈ phdrs, phdr.pType = ptLoad →
      m.layout.Covers phdr.pPaddr.toNat phdr.pFilesz.toNat := by
  refine (forList_rel (R := fun es u => u.layout = m.layout ∧ ∀ phdr ∈ es, phdr.pType = ptLoad →
    m.layout.Covers phdr.pPaddr.toNat phdr.pFilesz.toNat) ⟨rfl, List.forall_mem_nil _⟩ ?_ h).2
  intro es u u' phdr _ hu hnext
  refine ⟨(loadSegment_next hnext).1.trans hu.1, ?_⟩
  rw [List.forall_mem_append, List.forall_mem_singleton]
  refine ⟨hu.2, fun hload => ?_⟩
  have hin := loadSegment_inside hnext hload
  rw [← hu.1, ← ProgramHeader.length_fileBytes hin]
  by_cases hnil : phdr.fileBytes buffer = []
  · rw [hnil]
    intro i hi
    cases hi
  rw [← vm.writeSlice_ok_iff _ _ _ hnil]
  rw [loadSegment, if_pos hload, if_neg (by omega), if_neg (by omega)] at hnext
  rcases hw : vm.writeSlice u phdr.pPaddr.toNat (phdr.fileBytes buffer) with ⟨v, e | _⟩
  · rw [hw] at hnext
    cases hnext
  · rfl

/-- An address that a segment holds has a last segment that holds it. -/
theorem Elf.exists_lastSegment {elf : Elf} {phdr : ProgramHeader}
    (hphdr : phdr ∈ elf.programHeaders) {a : ℕ} (ha : phdr.Holds a) :
    ∃ q, elf.lastSegment a = some q := by
  rw [← Option.isSome_iff_exists, lastSegment, List.find?_isSome]
  exact ⟨phdr, List.mem_reverse.mpr hphdr, decide_eq_true ha⟩

/-- The bytes of a segment are in memory when each of them is. -/
theorem ProgramHeader.slice_eq_load_iff {phdr : ProgramHeader} {buffer : List UInt8}
    {f : ℕ → UInt8} (hload : phdr.pType = ptLoad)
    (hin : phdr.pOffset.toNat ≤ phdr.fileEnd ∧ phdr.fileEnd ≤ buffer.length) :
    slice f phdr.pPaddr.toNat phdr.pFilesz.toNat =
        load buffer phdr.pOffset.toNat phdr.pFilesz.toNat ↔
      ∀ a, phdr.Holds a → phdr.byteAt buffer a = some (f a) := by
  have hend := fileEnd_eq hin.1
  constructor
  · rintro h a ⟨-, hlo, hhi⟩
    have hget : (slice f phdr.pPaddr.toNat phdr.pFilesz.toNat)[a - phdr.pPaddr.toNat]? =
        some (f a) := by
      rw [getElem?_slice _ (by omega), Nat.add_sub_cancel' hlo]
    rw [h, load, List.getElem?_take_of_lt (by omega), List.getElem?_drop] at hget
    exact hget
  · intro h
    apply List.ext_getElem?
    intro i
    by_cases hi : i < phdr.pFilesz.toNat
    · have hbyte := h (phdr.pPaddr.toNat + i) ⟨hload, Nat.le_add_right _ _, by omega⟩
      rw [byteAt, Nat.add_sub_cancel_left] at hbyte
      rw [getElem?_slice _ hi, load, List.getElem?_take_of_lt hi, List.getElem?_drop, hbyte]
    · rw [List.getElem?_eq_none (by rw [length_slice]; omega),
        List.getElem?_eq_none (by rw [load, List.length_take]; omega)]

section Intact

variable {buffer : List UInt8} {elf : Elf} {m m' : GuestMemory} {cmdline : String}
  {loader : KernelLoader}

/-- The boot structures are written behind everything else. -/
theorem loadElf_bootByte (h : loadElf vm buffer elf m cmdline = (m', .ok loader)) {a : ℕ}
    {b : UInt8} (hb : b ∈ bootByte cmdline a) : m'.bytes a = b := by
  rw [(loadElf_ok h).2.1, loadedBlocks, patches_append, patches_apply, ← bootByte, hb,
    Option.getD_some]

/-- Where they do not reach, the last segment is what remains. -/
theorem loadElf_lastSegment (h : loadElf vm buffer elf m cmdline = (m', .ok loader)) {a : ℕ}
    (hnone : bootByte cmdline a = none) {q : ProgramHeader} (hq : q ∈ elf.lastSegment a) :
    q.byteAt buffer a = some (m'.bytes a) := by
  have hin := loadElf_inside h
  obtain ⟨hmem, hload, hlo, hhi⟩ := Elf.lastSegment_some hq
  have hend := ProgramHeader.fileEnd_eq (hin q hmem hload).1
  have hlen := (hin q hmem hload).2
  rw [(loadElf_ok h).2.1, loadedBlocks, patches_append, patches_apply, ← bootByte, hnone,
    Option.getD_none, patches_apply, lastWrite_segmentBlocks hin, hq, Option.bind_some,
    ProgramHeader.byteAt, List.getElem?_eq_getElem (by omega), Option.getD_some]

/-- A file is intact when each of its bytes is in place: that there is memory for them is what a
successful call has made sure of. -/
theorem loadElf_intact_iff (h : loadElf vm buffer elf m cmdline = (m', .ok loader)) :
    elf.Intact buffer m' ↔ ∀ phdr ∈ elf.programHeaders, ∀ a, phdr.Holds a →
      phdr.byteAt buffer a = some (m'.bytes a) := by
  obtain ⟨m₁, hseg, -, -⟩ := loadElf_eq_ok h
  have hlayout := (loadElf_ok h).1
  refine forall₂_congr fun phdr hphdr => ?_
  have hin := loadElf_inside h phdr hphdr
  constructor
  · intro hphdrs a ha
    exact (ProgramHeader.slice_eq_load_iff ha.1 (hin ha.1)).mp (hphdrs ha.1).2 a ha
  · intro hholds hload
    refine ⟨hlayout ▸ loadSegments_covers hseg phdr hphdr hload, ?_⟩
    exact (ProgramHeader.slice_eq_load_iff hload (hin hload)).mpr hholds

end Intact

/-- Segments that lie in memory as a whole hold no address together. -/
theorem Elf.DisjointSegments.eq_of_holds {elf : Elf} (h : elf.DisjointSegments)
    {p q : ProgramHeader} (hp : p ∈ elf.programHeaders) (hq : q ∈ elf.programHeaders) {a : ℕ}
    (hpa : p.Holds a) (hqa : q.Holds a) (hpsize : p.pFilesz.toNat ≤ p.pMemsz.toNat)
    (hqsize : q.pFilesz.toNat ≤ q.pMemsz.toNat) : p = q := by
  obtain ⟨hpload, hplo, hphi⟩ := hpa
  obtain ⟨hqload, hqlo, hqhi⟩ := hqa
  exact h.eq_of_spans hp hq ⟨hpload, hplo, by omega⟩ ⟨hqload, hqlo, by omega⟩

/-- **Images of accepted kernels**: of a file whose segments are disjoint in memory, all bytes are
in place after a successful `load_kernel` exactly when the boot structures, which are written
behind the segments, have the same byte wherever they meet one, and segments that are larger in
the file than in memory agree with the others. No placement of a segment is refused. -/
theorem loadKernel_intact_iff {files : KernelFiles} {m m' : GuestMemory}
    {kernelPath cmdline : String} {loader : KernelLoader} {buffer : List UInt8} {elf : Elf}
    (hread : files.readFile kernelPath = .ok buffer) (hparse : files.parse buffer = .ok elf)
    (hdisjoint : elf.DisjointSegments)
    (h : KernelLoader.loadKernel vm files m kernelPath cmdline = (m', .ok loader)) :
    elf.Intact buffer m' ↔ elf.KeepsImage buffer cmdline := by
  obtain ⟨buffer', elf', hread', hparse', helf⟩ := KernelLoader.loadKernel_eq_ok h
  obtain rfl := Except.ok.inj (hread.symm.trans hread')
  obtain rfl := Except.ok.inj (hparse.symm.trans hparse')
  rw [loadElf_intact_iff helf]
  constructor
  · intro hall
    constructor
    · intro phdr hphdr a ha b hb
      rw [hall phdr hphdr a ha, loadElf_bootByte helf hb]
    · intro phdr hphdr a ha hnone q hq _
      rw [hall phdr hphdr a ha, loadElf_lastSegment helf hnone hq]
  · intro hkeeps phdr hphdr a ha
    cases hb : bootByte cmdline a with
    | some b => rw [hkeeps.boot phdr hphdr a ha b hb, loadElf_bootByte helf hb]
    | none =>
        obtain ⟨q, hq⟩ := Elf.exists_lastSegment hphdr ha
        obtain ⟨hmem, hqa⟩ := Elf.lastSegment_some hq
        rw [← loadElf_lastSegment helf hb hq]
        by_cases hover : phdr.pMemsz < phdr.pFilesz ∨ q.pMemsz < q.pFilesz
        · exact hkeeps.overrun phdr hphdr a ha hb q hq hover
        · rw [hdisjoint.eq_of_holds hphdr hmem ha hqa
            (Nat.not_lt.mp fun hlt => hover (.inl hlt))
            (Nat.not_lt.mp fun hlt => hover (.inr hlt))]

/-- A kernel of two bytes, placed where the zero page goes. -/
def KernelFiles.zeroPage : KernelFiles where
  readFile _ := .ok [0x55, 0xAA]
  parse _ := .ok
    { entry := 0x7000
      programHeaders :=
        [{ pType := ptLoad, pOffset := 0, pPaddr := 0x7000, pFilesz := 2, pMemsz := 2 }] }

theorem loadKernel_zeroPage (vm : VmMemory) (b : UInt8) :
    ∃ m', KernelLoader.loadKernel vm .zeroPage (.ram b) "vmlinux" "" =
      (m', .ok { entryPoint := 0x7000, cmdline := "" }) :=
  loadElf_of_loadable vm
    (.of_below (GuestMemory.ram_covers b) (by decide) (by decide) (by decide) (by decide))

/-- This kernel is accepted, and its first byte is gone. -/
theorem loadKernel_overwritten :
    ∃ m' loader elf, KernelFiles.zeroPage.parse [0x55, 0xAA] = .ok elf ∧ elf.DisjointSegments ∧
      KernelLoader.loadKernel VmMemory.mmap .zeroPage (.ram 7) "vmlinux" "" = (m', .ok loader) ∧
      m'.bytes 0x7000 = 0 := by
  obtain ⟨m', h⟩ := loadKernel_zeroPage VmMemory.mmap 7
  obtain ⟨buffer, elf, -, hparse, helf⟩ := KernelLoader.loadKernel_eq_ok h
  obtain rfl := Except.ok.inj hparse
  refine ⟨m', _, _, rfl, ?_, h, ?_⟩
  · exact List.Pairwise.filter (fun p : ProgramHeader => decide (p.pType = ptLoad))
      (List.pairwise_singleton _ _)
  · have hpage := slice_loadedBlocks_bootParams (GuestMemory.ram 7).bytes buffer
      ⟨0x7000, [⟨ptLoad, 0, 0x7000, 2, 2⟩]⟩ ""
    rw [← (loadElf_ok helf).2.1] at hpage
    have hfirst : (slice m'.bytes bootParamsAddr 4096)[0]? = some (m'.bytes 0x7000) :=
      getElem?_slice m'.bytes (by decide)
    rw [hpage] at hfirst
    exact (Option.some.inj hfirst).symm

/-- A kernel above the boot structures is intact. -/
theorem loadKernel_intact_twoBytes :
    ∃ m' loader elf, KernelFiles.twoBytes.parse [0x55, 0xAA] = .ok elf ∧
      KernelLoader.loadKernel VmMemory.mmap .twoBytes (.ram 7) "vmlinux" "" = (m', .ok loader) ∧
      elf.Intact [0x55, 0xAA] m' := by
  obtain ⟨m', h⟩ := loadKernel_twoBytes VmMemory.mmap 7
  have hsep : Elf.SeparateSegments ⟨0x100000, [⟨ptLoad, 0, 0x100000, 2, 2⟩]⟩ "" :=
    .single (by decide) (by decide)
  exact ⟨m', _, _, rfl, h, (loadKernel_intact_iff rfl rfl hsep.disjoint h).mpr
    (hsep.keepsImage _)⟩

end MoVm
