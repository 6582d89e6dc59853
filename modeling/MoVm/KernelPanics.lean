import MoVm.KernelImage

/-!
# Panics of the Kernel Loader

The headers of an ELF file are 64-bit values that nobody has checked. A build with overflow
checks panics when `p_offset + p_filesz` overflows, and again when the log line behind a
loaded segment computes `p_paddr + p_memsz`. In a release build the first sum wraps around,
passes the test against the length of the file, and the slice then panics because it ends
before it starts. Every build panics when sixteen bytes at the entry point cannot be read.

The log line is there only when the log level lets `info!` through, and its sum is not computed
otherwise.

`loadElfChecked` is the loader in a build with overflow checks. Whether it panics is a matter of the
headers, of the length of the file and of the layout of guest memory alone: a header is *reached*
when those before it are in the file and fit into memory.

## Main results

* `loadKernelChecked_returns_iff`: when the loader returns instead of panicking.
-/

open Lib

namespace MoVm

variable (vm : VmMemory)

/-! ### The loader with overflow checks -/

/-- The body of the loop over the program headers, with the sums checked. The second one is
computed for the log, behind the write, when the log level lets the line through. -/
def loadSegmentChecked (logInfo : Bool) (buffer : List UInt8) (m : GuestMemory)
    (phdr : ProgramHeader) : Flow GuestMemory (Outcome HypervisorError Empty) :=
  if phdr.pType = ptLoad ∧ 2 ^ 64 ≤ phdr.pOffset.toNat + phdr.pFilesz.toNat then .exit m .panic
  else
    match loadSegment vm buffer m phdr with
    | .next m' =>
        if logInfo ∧ phdr.pType = ptLoad ∧ 2 ^ 64 ≤ phdr.pPaddr.toNat + phdr.pMemsz.toNat then
          .exit m' .panic
        else .next m'
    | .exit m' r => .exit m' r

/-- `load_kernel` on the content of the file, with the sums checked. No sum in the phases
behind the segments depends on the file. -/
def loadElfChecked (logInfo : Bool) (buffer : List UInt8) (elf : Elf) (m : GuestMemory)
    (cmdline : String) : GuestMemory × Outcome HypervisorError KernelLoader :=
  match forList (loadSegmentChecked vm logInfo buffer) elf.programHeaders m with
  | (m, some r) => (m, r.bind nofun)
  | (m, none) => loadElf vm buffer { elf with programHeaders := [] } m cmdline

/-- `KernelLoader::load_kernel` in a build with overflow checks. -/
def KernelLoader.loadKernelChecked (logInfo : Bool) (files : KernelFiles) (m : GuestMemory)
    (kernelPath : String) (cmdline : String) : GuestMemory × Outcome HypervisorError KernelLoader :=
  match files.readFile kernelPath with
  | .error e => (m, .err (.ioError e))
  | .ok buffer =>
      match files.parse buffer with
      | .error _ => (m, .err (.memoryError "Invalid ELF format"))
      | .ok elf => loadElfChecked vm logInfo buffer elf m cmdline

/-! ### When no sum overflows -/

section Conditions

variable {vm} (ew : vm.EmptyWrites) (L : Layout) (buffer : List UInt8)

/-- The segment is in the file and fits into guest memory. -/
def ProgramHeader.Loads (phdr : ProgramHeader) : Prop :=
  phdr.pType = ptLoad → phdr.pOffset.toNat + phdr.pFilesz.toNat ≤ buffer.length ∧
    ew.Fits L phdr.pPaddr.toNat phdr.pFilesz.toNat

/-- The sums for this header do not overflow: the end of the range in the file, and, when the
segment is loaded and a line is logged for it, the end of the range in memory. -/
def HeaderSafe (logInfo : Bool) (phdr : ProgramHeader) : Prop :=
  phdr.pType = ptLoad → phdr.pOffset.toNat + phdr.pFilesz.toNat < 2 ^ 64 ∧
    (logInfo = true → phdr.Loads ew L buffer → phdr.pPaddr.toNat + phdr.pMemsz.toNat < 2 ^ 64)

/-- So it is for every header that is reached. -/
def HeadersSafe (logInfo : Bool) (phdrs : List ProgramHeader) : Prop :=
  ∀ pre phdr post, phdrs = pre ++ phdr :: post → (∀ p ∈ pre, p.Loads ew L buffer) →
    HeaderSafe ew L buffer logInfo phdr

/-- The file does not make the loader panic. -/
structure PanicFree (logInfo : Bool) (elf : Elf) (cmdline : String) : Prop where
  headers : HeadersSafe ew L buffer logInfo elf.programHeaders
  /-- If there is memory for everything that is written, there is memory for sixteen bytes at the
  entry point. -/
  entry : (∀ phdr ∈ elf.programHeaders, phdr.Loads ew L buffer) →
    (∀ w ∈ bootWrites cmdline, L.Covers w.addr w.bytes.length) → L.Covers elf.entry.toNat 16

end Conditions

variable {vm} {ew : vm.EmptyWrites} {L : Layout} {buffer : List UInt8} {logInfo : Bool}

/-- Without headers no sum is computed. -/
theorem headersSafe_nil : HeadersSafe ew L buffer logInfo [] := by
  intro pre phdr post h
  exact absurd h.symm (List.append_ne_nil_of_right_ne_nil _ (List.cons_ne_nil _ _))

/-- The first header, and the ones behind it if it is loaded. -/
theorem headersSafe_cons {phdr : ProgramHeader} {phdrs : List ProgramHeader} :
    HeadersSafe ew L buffer logInfo (phdr :: phdrs) ↔ HeaderSafe ew L buffer logInfo phdr ∧
      (phdr.Loads ew L buffer → HeadersSafe ew L buffer logInfo phdrs) := by
  constructor
  · intro h
    refine ⟨h [] phdr phdrs rfl (List.forall_mem_nil _), fun hloads pre p post hsplit hpre => ?_⟩
    exact h (phdr :: pre) p post (by rw [hsplit, List.cons_append])
      (List.forall_mem_cons.mpr ⟨hloads, hpre⟩)
  · rintro ⟨hfirst, hrest⟩ (_ | ⟨q, pre⟩) p post hsplit hpre
    · obtain ⟨rfl, rfl⟩ := List.cons.inj hsplit
      exact hfirst
    · obtain ⟨rfl, hsplit'⟩ := List.cons.inj hsplit
      obtain ⟨hloads, hpre⟩ := List.forall_mem_cons.mp hpre
      exact hrest hloads pre p post hsplit' hpre

/-! ### One header -/

/-- **A header goes through** exactly when its segment is in the file and fits; a range in the file
that does not overflow does not end before it starts, so the slice does not panic. -/
theorem loadSegment_cases (ew : vm.EmptyWrites) (buffer : List UInt8) (m : GuestMemory)
    {phdr : ProgramHeader}
    (hsum : phdr.pType = ptLoad → phdr.pOffset.toNat + phdr.pFilesz.toNat < 2 ^ 64) :
    (phdr.Loads ew m.layout buffer ∧
      ∃ m', loadSegment vm buffer m phdr = .next m' ∧ m'.layout = m.layout) ∨
    (¬phdr.Loads ew m.layout buffer ∧
      ∃ m' e, loadSegment vm buffer m phdr = .exit m' (.err e)) := by
  by_cases hload : phdr.pType = ptLoad
  swap
  · exact .inl ⟨fun h => absurd h hload, m, by rw [loadSegment, if_neg hload], rfl⟩
  have hend : phdr.fileEnd = phdr.pOffset.toNat + phdr.pFilesz.toNat := by
    rw [ProgramHeader.fileEnd, UInt64.toNat_add, Nat.mod_eq_of_lt (hsum hload)]
  by_cases hfile : phdr.fileEnd ≤ buffer.length
  swap
  · have hexit : loadSegment vm buffer m phdr =
        .exit m (.err (.memoryError "Invalid ELF segment: extends past end of file")) := by
      rw [loadSegment, if_pos hload, if_pos (Nat.lt_of_not_le hfile)]
    exact .inr ⟨fun h => hfile (hend ▸ (h hload).1), m, _, hexit⟩
  have hwrite := ew.writeSlice_ok_iff_fits m phdr.pPaddr.toNat (phdr.fileBytes buffer)
  have hL := vm.writeSlice_layout m phdr.pPaddr.toNat (phdr.fileBytes buffer)
  rw [ProgramHeader.length_fileBytes ⟨by omega, hfile⟩] at hwrite
  rcases hw : vm.writeSlice m phdr.pPaddr.toNat (phdr.fileBytes buffer) with ⟨m', e | ⟨⟩⟩
  · rw [hw] at hwrite
    have hexit : loadSegment vm buffer m phdr = .exit m' (.err (.memoryError
        ("Failed to write kernel segment at 0x" ++ hex phdr.pPaddr.toNat ++ ": " ++ e))) := by
      rw [loadSegment, if_pos hload, if_neg (by omega), if_neg (by omega), hw]
    refine .inr ⟨fun h => ?_, m', _, hexit⟩
    cases hwrite.mpr (h hload).2
  · rw [hw] at hwrite hL
    refine .inl ⟨fun _ => ⟨hend ▸ hfile, hwrite.mp rfl⟩, m', ?_, hL⟩
    rw [loadSegment, if_pos hload, if_neg (by omega), if_neg (by omega), hw]

/-- A header whose sums do not overflow is handled as without the checks. -/
theorem loadSegmentChecked_safe {m : GuestMemory} {phdr : ProgramHeader}
    (h : HeaderSafe ew m.layout buffer logInfo phdr) :
    loadSegmentChecked vm logInfo buffer m phdr = loadSegment vm buffer m phdr := by
  rw [loadSegmentChecked, if_neg fun hover => absurd (h hover.1).1 (Nat.not_lt.mpr hover.2)]
  rcases loadSegment_cases ew buffer m (fun hload => (h hload).1) with
    ⟨hloads, m', hnext, -⟩ | ⟨-, m', e, hexit⟩
  · rw [hnext]
    exact if_neg fun hover =>
      absurd ((h hover.2.1).2 hover.1 hloads) (Nat.not_lt.mpr hover.2.2)
  · rw [hexit]

/-- Any other header panics. -/
theorem loadSegmentChecked_unsafe {m : GuestMemory} {phdr : ProgramHeader}
    (h : ¬HeaderSafe ew m.layout buffer logInfo phdr) :
    ∃ m', loadSegmentChecked vm logInfo buffer m phdr = .exit m' .panic := by
  obtain ⟨hload, hover⟩ := Classical.not_imp.mp h
  by_cases hfile : 2 ^ 64 ≤ phdr.pOffset.toNat + phdr.pFilesz.toNat
  · exact ⟨m, by rw [loadSegmentChecked, if_pos ⟨hload, hfile⟩]⟩
  · -- the segment is loaded, and its end in memory overflows
    have hlog : ¬(logInfo = true → phdr.Loads ew m.layout buffer →
        phdr.pPaddr.toNat + phdr.pMemsz.toNat < 2 ^ 64) :=
      fun hall => hover ⟨Nat.not_le.mp hfile, hall⟩
    obtain ⟨hinfo, hlog⟩ := Classical.not_imp.mp hlog
    obtain ⟨hloads, hmem⟩ := Classical.not_imp.mp hlog
    rcases loadSegment_cases ew buffer m (fun _ => Nat.not_le.mp hfile) with
      ⟨-, m', hnext, -⟩ | ⟨hno, -⟩
    · refine ⟨m', ?_⟩
      rw [loadSegmentChecked, if_neg fun hc => hfile hc.2, hnext]
      exact if_pos ⟨hinfo, hload, Nat.not_lt.mp hmem⟩
    · exact absurd hloads hno

/-! ### All headers -/

/-- As long as no sum overflows, the loop comes to its end when all segments are loaded, and
returns an error otherwise. -/
theorem forList_checked_safe {phdrs : List ProgramHeader} {m : GuestMemory}
    (h : HeadersSafe ew m.layout buffer logInfo phdrs) :
    ((∀ phdr ∈ phdrs, phdr.Loads ew m.layout buffer) ∧
      ∃ m', forList (loadSegmentChecked vm logInfo buffer) phdrs m = (m', none) ∧
        m'.layout = m.layout) ∨
    (¬(∀ phdr ∈ phdrs, phdr.Loads ew m.layout buffer) ∧
      ∃ m' e, forList (loadSegmentChecked vm logInfo buffer) phdrs m = (m', some (.err e))) := by
  induction phdrs generalizing m with
  | nil => exact .inl ⟨List.forall_mem_nil _, m, rfl, rfl⟩
  | cons phdr phdrs ih =>
      obtain ⟨hfirst, hrest⟩ := headersSafe_cons.mp h
      rw [forList, loadSegmentChecked_safe hfirst, List.forall_mem_cons]
      rcases loadSegment_cases ew buffer m (fun hload => (hfirst hload).1) with
        ⟨hloads, m', hnext, hL⟩ | ⟨hno, m', e, hexit⟩
      · rw [hnext, and_iff_right hloads, ← hL]
        exact ih (hL ▸ hrest hloads)
      · rw [hexit]
        exact .inr ⟨fun hall => hno hall.1, m', e, rfl⟩

/-- Otherwise it panics. -/
theorem forList_checked_unsafe {phdrs : List ProgramHeader} {m : GuestMemory}
    (h : ¬HeadersSafe ew m.layout buffer logInfo phdrs) :
    ∃ m', forList (loadSegmentChecked vm logInfo buffer) phdrs m = (m', some .panic) := by
  induction phdrs generalizing m with
  | nil => exact absurd headersSafe_nil h
  | cons phdr phdrs ih =>
      by_cases hfirst : HeaderSafe ew m.layout buffer logInfo phdr
      · -- the overflow comes later, so this header is loaded
        obtain ⟨hloads, hrest⟩ := Classical.not_imp.mp fun hall =>
          h (headersSafe_cons.mpr ⟨hfirst, hall⟩)
        rcases loadSegment_cases ew buffer m (fun hload => (hfirst hload).1) with
          ⟨-, m', hnext, hL⟩ | ⟨hno, -⟩
        · obtain ⟨m'', hpanic⟩ := ih (hL ▸ hrest)
          exact ⟨m'', by rw [forList, loadSegmentChecked_safe hfirst, hnext]; exact hpanic⟩
        · exact absurd hloads hno
      · obtain ⟨m', hpanic⟩ := loadSegmentChecked_unsafe hfirst
        exact ⟨m', by rw [forList, hpanic]⟩

/-! ### The whole call -/

/-- The blocks at fixed addresses are written exactly when there is memory for all of them. -/
theorem bootWrites_ends_iff (vm : VmMemory) (m : GuestMemory) (cmdline : String) :
    (∃ m', forList (bootWrite vm) (bootWrites cmdline) m = (m', none)) ↔
      ∀ w ∈ bootWrites cmdline, m.layout.Covers w.addr w.bytes.length := by
  have hne : ∀ w ∈ bootWrites cmdline, w.bytes ≠ [] := fun w hw =>
    List.length_pos_iff.mp (bootWrites_fit cmdline w hw).1
  constructor
  · rintro ⟨m', hboot⟩ w hw
    exact bootWrites_covers hboot w hw (hne w hw)
  · intro hcov
    obtain ⟨m', hboot, -⟩ := forList_ends (I := fun u : GuestMemory => u.layout = m.layout)
      (fun u w hw hu => bootWrite_covered vm (hne w hw) (hcov w hw) hu) rfl
    exact ⟨m', hboot⟩

/-- The phases behind the segments panic only at the entry point. -/
theorem loadElf_nil_ne_panic_iff (vm : VmMemory) (buffer : List UInt8) (elf : Elf)
    (m : GuestMemory) (cmdline : String) :
    (loadElf vm buffer { elf with programHeaders := [] } m cmdline).2 ≠ .panic ↔
      ((∀ w ∈ bootWrites cmdline, m.layout.Covers w.addr w.bytes.length) →
        m.layout.Covers elf.entry.toNat 16) := by
  have hnil : forList (loadSegment vm buffer) [] m = (m, none) := rfl
  rw [← bootWrites_ends_iff vm]
  rcases hboot : forList (bootWrite vm) (bootWrites cmdline) m with ⟨m', _ | e⟩
  · have hread := vm.readSlice_ok_iff m' elf.entry.toNat (List.replicate 16 0)
      (List.cons_ne_nil _ _)
    rw [(bootWrites_ok hboot).1, List.length_replicate] at hread
    rw [forall_prop_of_true ⟨m', rfl⟩, ← hread]
    simp only [loadElf, hnil, hboot]
    rcases vm.readSlice m' elf.entry.toNat (List.replicate 16 0) with ⟨buf, e | ⟨⟩⟩
    · simp only [ne_eq, not_true_eq_false, reduceCtorEq]
    · simp only [ne_eq, reduceCtorEq, not_false_eq_true]
  · refine iff_of_true (fun h => ?_) ?_
    · simp only [loadElf, hnil, hboot] at h
      cases h
    · rintro ⟨m'', h⟩
      cases h

/-- When the loader does not panic on the content of a file. -/
theorem loadElfChecked_ne_panic_iff (ew : vm.EmptyWrites) (logInfo : Bool) (buffer : List UInt8)
    (elf : Elf) (m : GuestMemory) (cmdline : String) :
    (loadElfChecked vm logInfo buffer elf m cmdline).2 ≠ .panic ↔
      PanicFree ew m.layout buffer logInfo elf cmdline := by
  by_cases hsafe : HeadersSafe ew m.layout buffer logInfo elf.programHeaders
  · rcases forList_checked_safe hsafe with ⟨hall, m', hloop, hL⟩ | ⟨hno, m', e, hloop⟩
    · simp only [loadElfChecked, hloop]
      rw [loadElf_nil_ne_panic_iff, hL]
      exact ⟨fun h => ⟨hsafe, fun _ => h⟩, fun h => h.entry hall⟩
    · refine iff_of_true ?_ ⟨hsafe, fun hall => absurd hall hno⟩
      simp only [loadElfChecked, hloop]
      exact fun h => nomatch h
  · obtain ⟨m', hpanic⟩ := forList_checked_unsafe hsafe
    refine iff_of_false ?_ fun h => hsafe h.headers
    simp only [loadElfChecked, hpanic]
    exact fun h => h rfl

/-- **When `load_kernel` returns**: it returns `Ok` or `Err`, no sum having overflowed, no
slice having been out of range and no `unwrap` having failed, exactly when the sums that are
computed for the headers it reaches do not overflow and, if there is memory for everything that is
written, there is memory for sixteen bytes at the entry point. -/
theorem loadKernelChecked_returns_iff (ew : vm.EmptyWrites) (logInfo : Bool) (files : KernelFiles)
    (m : GuestMemory) (kernelPath cmdline : String) :
    (KernelLoader.loadKernelChecked vm logInfo files m kernelPath cmdline).2 ≠ .panic ↔
      ∀ buffer elf, files.readFile kernelPath = .ok buffer → files.parse buffer = .ok elf →
        PanicFree ew m.layout buffer logInfo elf cmdline := by
  unfold KernelLoader.loadKernelChecked
  cases hread : files.readFile kernelPath with
  | error e => exact iff_of_true (fun h => nomatch h) fun _ _ h => nomatch h
  | ok buffer =>
      cases hparse : files.parse buffer with
      | error e =>
          simp only [hparse]
          refine iff_of_true (fun h => nomatch h) fun buffer' elf hb hp => ?_
          obtain rfl := Except.ok.inj hb
          rw [hparse] at hp
          cases hp
      | ok elf =>
          simp only [hparse]
          rw [loadElfChecked_ne_panic_iff ew]
          constructor
          · intro h buffer' elf' hb hp
            obtain rfl := Except.ok.inj hb
            obtain rfl := Except.ok.inj (hparse.symm.trans hp)
            exact h
          · exact fun h => h buffer elf rfl hparse

/-- A file whose one segment has the range `[2 ^ 64 - 1, 2 ^ 64)`. -/
def KernelFiles.wrapped : KernelFiles where
  readFile _ := .ok []
  parse _ := .ok
    { entry := 0x100000
      programHeaders :=
        [{ pType := ptLoad, pOffset := 0xffffffffffffffff, pPaddr := 0x100000, pFilesz := 1,
           pMemsz := 1 }] }

/-- On this file the loader panics at every log level, with overflow checks and without. -/
theorem wrapped_panics :
    (∀ logInfo, (KernelLoader.loadKernelChecked VmMemory.mmap logInfo .wrapped (.ram 0) "vmlinux"
        "").2 = .panic) ∧
      (KernelLoader.loadKernel VmMemory.mmap .wrapped (.ram 0) "vmlinux" "").2 = .panic :=
  ⟨fun _ => rfl, rfl⟩

end MoVm
