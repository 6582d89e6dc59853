import MoVm.KernelLoader

/-!
# What the Kernel Reads from the Zero Page

A Linux kernel finds its parameters in the zero page: the type of the loader, a 32-bit pointer to
the command line, and a table of memory ranges, the e820 table, with its number of entries.
`LinuxBootParams.decode` reads them from memory at the offsets of the boot protocol, without
reference to the loader. `load_kernel` puts the page together field by field, and writes it behind
everything else.

## Main results

* `loadKernel_boot_params`: after `load_kernel`, the zero page decodes to the loader type, a
  pointer to the command line and one range of memory, and is zero elsewhere.
-/

open Lib

namespace MoVm

/-! ### The boot protocol -/

/-- An entry of the e820 table: a range of addresses, and what is there. -/
structure E820Entry where
  addr : ℕ
  size : ℕ
  type : ℕ
deriving DecidableEq

/-- The entry at an address: two 64-bit numbers and a 32-bit one. -/
def E820Entry.decode (f : ℕ → UInt8) (a : ℕ) : E820Entry where
  addr := leNat (slice f a 8)
  size := leNat (slice f (a + 8) 8)
  type := leNat (slice f (a + 16) 4)

/-- The type of usable memory. -/
def e820Ram : ℕ := 1

/-- The fields of the zero page that the loader fills in. -/
structure LinuxBootParams where
  typeOfLoader : ℕ
  cmdLinePtr : ℕ
  e820Table : List E820Entry
deriving DecidableEq

/-- The zero page at an address, as the kernel reads it. -/
def LinuxBootParams.decode (f : ℕ → UInt8) (base : ℕ) : LinuxBootParams where
  typeOfLoader := (f (base + 0x210)).toNat
  cmdLinePtr := leNat (slice f (base + 0x228) 4)
  e820Table := (List.range (f (base + 0x1e8)).toNat).map fun i =>
    E820Entry.decode f (base + 0x2d0 + i * 20)

/-- The offsets of these fields, with an e820 table of one entry. -/
def IsBootField (i : ℕ) : Prop :=
  i = 0x1e8 ∨ i = 0x210 ∨ (0x228 ≤ i ∧ i < 0x22c) ∨ (0x2d0 ≤ i ∧ i < 0x2e4)

/-! ### The page of the loader -/

/-- What the loader puts into the cleared page, in order. -/
def bootFields : List (ℕ × List UInt8) :=
  [(0x210, [0xFF]), (0x228, leBytes 4 cmdlineAddr), (0x1e8, [1]), (0x2d0, leBytes 8 0),
    (0x2d8, leBytes 8 0x8000000), (0x2e0, leBytes 4 1)]

/-- Setting a byte of a file is writing a block of one byte. -/
theorem getD_set (bs : List UInt8) {off : ℕ} (b : UInt8) (h : off < bs.length) (i : ℕ) :
    (bs.set off b).getD i 0 = patch (fun i => bs.getD i 0) off [b] i := by
  by_cases hi : i = off
  · subst hi
    have hmem : patch (fun i => bs.getD i 0) i [b] (i + 0) = b := patch_of_mem Nat.one_pos
    rw [Nat.add_zero] at hmem
    rw [hmem, List.getD_eq_getElem?_getD, List.getElem?_set_self h, Option.getD_some]
  · rw [patch_of_notMem (by rw [List.length_singleton]; omega), List.getD_eq_getElem?_getD,
      List.getElem?_set_ne (Ne.symm hi), ← List.getD_eq_getElem?_getD]

/-- The page is its fields, written one after the other. -/
theorem getD_bootParams (i : ℕ) : bootParams.getD i 0 = patches (fun _ => 0) bootFields i := by
  have hzero : (fun i => (List.replicate 4096 (0 : UInt8)).getD i 0) = fun _ => 0 := by
    funext i
    rw [List.getD_eq_getElem?_getD, List.getElem?_replicate]
    split <;> rfl
  have hlen : ∀ {page : List UInt8} {off w n : ℕ}, page.length = 4096 → off + w ≤ 4096 →
      (store page off (leBytes w n)).length = 4096 := fun h hw =>
    (length_store_of_le (by rw [h, length_leBytes]; exact hw)).trans h
  simp only [bootParams, bootFields, patches_cons, patches_nil]
  rw [getD_store, funext (getD_store _ _ _), funext (getD_store _ _ _), funext (getD_set _ _ ?_),
    funext (getD_store _ _ _), funext (getD_set _ _ ?_), hzero]
  · rw [List.length_replicate]
    decide
  · rw [hlen (List.length_set.trans List.length_replicate) (by decide)]
    decide

/-- The page is zero outside of its fields. -/
theorem bootFields_zero {i : ℕ} (h : ¬IsBootField i) :
    patches (fun _ => (0 : UInt8)) bootFields i = 0 := by
  refine patches_of_notMem fun w hw hcov => h ?_
  simp only [bootFields, List.mem_cons, List.not_mem_nil, or_false] at hw
  rw [IsBootField]
  rcases hw with rfl | rfl | rfl | rfl | rfl | rfl
  all_goals
    simp only [length_leBytes, List.length_singleton] at hcov
    omega

section Page

variable {f : ℕ → UInt8} {base : ℕ}

theorem byte_of_bootParams (hpage : slice f base 4096 = bootParams) {i : ℕ} (hi : i < 4096) :
    f (base + i) = patches (fun _ => 0) bootFields i := by
  rw [← getD_bootParams, ← hpage, List.getD_eq_getElem?_getD, getElem?_slice _ hi,
    Option.getD_some]

theorem slice_of_bootParams (hpage : slice f base 4096 = bootParams) {off n : ℕ}
    (hn : off + n ≤ 4096) :
    slice f (base + off) n = slice (patches (fun _ => 0) bootFields) off n := by
  refine List.map_congr_left fun i hi => ?_
  have hi := List.mem_range.mp hi
  rw [Nat.add_assoc, byte_of_bootParams hpage (by omega)]

/-- **What the kernel reads** from a page that the loader has put together. -/
theorem LinuxBootParams.decode_bootParams (hpage : slice f base 4096 = bootParams) :
    LinuxBootParams.decode f base =
      { typeOfLoader := 0xFF
        cmdLinePtr := cmdlineAddr
        e820Table := [{ addr := 0, size := 128 * 2 ^ 20, type := e820Ram }] } := by
  have hloader : (f (base + 0x210)).toNat = 0xFF := by
    rw [byte_of_bootParams hpage (by decide)]
    decide
  have hptr : leNat (slice f (base + 0x228) 4) = cmdlineAddr := by
    rw [slice_of_bootParams hpage (by decide)]
    decide
  have hcount : (f (base + 0x1e8)).toNat = 1 := by
    rw [byte_of_bootParams hpage (by decide)]
    decide
  have hentry : E820Entry.decode f (base + 0x2d0) = ⟨0, 128 * 2 ^ 20, e820Ram⟩ := by
    show E820Entry.mk (leNat (slice f (base + 0x2d0) 8)) (leNat (slice f (base + 0x2d8) 8))
      (leNat (slice f (base + 0x2e0) 4)) = _
    rw [slice_of_bootParams hpage (by decide), slice_of_bootParams hpage (by decide),
      slice_of_bootParams hpage (by decide)]
    decide
  rw [LinuxBootParams.decode, hloader, hptr, hcount]
  show LinuxBootParams.mk _ _ [E820Entry.decode f (base + 0x2d0)] = _
  rw [hentry]

end Page

/-! ### After loading -/

theorem cmdlineBytes_eq (cmdline : String) : cmdlineBytes cmdline = utf8Bytes cmdline ++ [0] := by
  rw [cmdlineBytes, utf8Bytes, List.flatMap_append]
  rfl

/-- The command line without NUL bytes is the string at its address. -/
theorem isCString_cmdline {f : ℕ → UInt8} {cmdline : String} (hnul : 0 ∉ utf8Bytes cmdline)
    (h : slice f cmdlineAddr (cmdlineBytes cmdline).length = cmdlineBytes cmdline) :
    IsCString f cmdlineAddr (utf8Bytes cmdline) := by
  rw [cmdlineBytes_eq, List.length_append, slice_add] at h
  obtain ⟨hbytes, hend⟩ := List.append_inj h (length_slice _ _ _)
  exact ⟨hnul, hbytes, (List.cons.inj hend).1⟩

/-- **The boot parameters after loading a kernel**: the zero page exists and decodes to the loader
type, a pointer at which the string in memory is the command line, and a memory map of one range
of RAM, from zero to 128 MiB. Every other byte of the page is zero, whatever was there before. -/
theorem loadKernel_boot_params {vm : VmMemory} {files : KernelFiles} {m m' : GuestMemory}
    {kernelPath cmdline : String} {loader : KernelLoader} (hnul : 0 ∉ utf8Bytes cmdline)
    (h : KernelLoader.loadKernel vm files m kernelPath cmdline = (m', .ok loader)) :
    m'.layout.Covers 0x7000 4096 ∧
      (LinuxBootParams.decode m'.bytes 0x7000).typeOfLoader = 0xFF ∧
      m'.layout.Covers (LinuxBootParams.decode m'.bytes 0x7000).cmdLinePtr
        ((utf8Bytes cmdline).length + 1) ∧
      (∀ s, IsCString m'.bytes (LinuxBootParams.decode m'.bytes 0x7000).cmdLinePtr s ↔
        s = utf8Bytes cmdline) ∧
      (LinuxBootParams.decode m'.bytes 0x7000).e820Table =
        [{ addr := 0, size := 128 * 2 ^ 20, type := e820Ram }] ∧
      ∀ i < 4096, ¬IsBootField i → m'.bytes (0x7000 + i) = 0 := by
  obtain ⟨buffer, elf, -, -, helf⟩ := KernelLoader.loadKernel_eq_ok h
  obtain ⟨m₁, -, hboot, -⟩ := loadElf_eq_ok helf
  obtain ⟨-, hbytes, -⟩ := loadElf_ok helf
  have hcovers := bootWrites_covers hboot
  rw [← (bootWrites_ok hboot).1] at hcovers
  have hpage : slice m'.bytes 0x7000 4096 = bootParams :=
    hbytes ▸ slice_loadedBlocks_bootParams m.bytes buffer elf cmdline
  have hline := isCString_cmdline hnul (hbytes ▸ slice_loadedBlocks_cmdline m.bytes buffer elf
    cmdline)
  rw [LinuxBootParams.decode_bootParams hpage]
  refine ⟨?_, rfl, ?_, ?_, rfl, ?_⟩
  · have hzero := hcovers _ (List.mem_append_right _ (List.mem_cons_of_mem _ List.mem_cons_self))
      (List.ne_nil_of_length_pos (by rw [length_bootParams]; decide))
    rwa [length_bootParams] at hzero
  · have hcmd := hcovers _ (List.mem_append_right _ List.mem_cons_self)
      (List.ne_nil_of_length_pos (cmdlineBytes_length_pos cmdline))
    simp only [cmdlineBytes_eq, List.length_append, List.length_singleton] at hcmd
    exact hcmd
  · intro s
    exact ⟨fun hs => hs.unique hline, fun hs => hs ▸ hline⟩
  · intro i hi hfield
    rw [byte_of_bootParams hpage hi, bootFields_zero hfield]

/-- A kernel that is loaded into memory filled with sevens finds its command line. -/
theorem loadKernel_boot_params_console :
    ∃ m' loader, KernelLoader.loadKernel VmMemory.mmap .twoBytes (.ram 7) "vmlinux"
        "console=ttyS0" = (m', .ok loader) ∧
      IsCString m'.bytes (LinuxBootParams.decode m'.bytes 0x7000).cmdLinePtr
        (utf8Bytes "console=ttyS0") ∧
      m'.bytes 0x7000 = 0 := by
  have hfits : Loadable (GuestMemory.ram 7).layout [0x55, 0xAA]
      ⟨0x100000, [⟨ptLoad, 0, 0x100000, 2, 2⟩]⟩ "console=ttyS0" :=
    .of_below (GuestMemory.ram_covers 7) (by decide) (by decide) (by decide) (by decide)
  obtain ⟨m', h⟩ := loadElf_of_loadable VmMemory.mmap hfits
  change KernelLoader.loadKernel VmMemory.mmap .twoBytes (.ram 7) "vmlinux" "console=ttyS0" = _ at h
  obtain ⟨-, -, -, hline, -, hzero⟩ := loadKernel_boot_params (by decide) h
  refine ⟨m', _, h, (hline _).mpr rfl, hzero 0 (by decide) ?_⟩
  rw [IsBootField]
  decide

end MoVm
