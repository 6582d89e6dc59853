import MoVm.Lib.Bytes

/-!
# A Processor in Real Mode

A few instructions of a processor in real mode: enough for software interrupts, their handlers and
the code that calls them. An address is a segment and an offset of sixteen bits each, an interrupt
pushes the flags and the address of the next instruction and continues at an entry of the vector
table, and `iret` takes the three words back.

`step` has no value where the processor would raise a fault, where the code would run off the end
of its segment, and on every instruction that is not in `Instr`. External interrupts are left out:
`int` clears the flag that lets them in, and `iret` puts back what was there.

## Main results

* `decode_encode`: an instruction is read back from its bytes.
* `Executes.interrupt`: the rule for a handler. If its body keeps the stack pointer and the six
  bytes on top of the stack and ends at an `iret`, then the call returns behind the `int`, with the
  flags and the stack pointer of the caller.
-/

namespace Lib.RealMode

/-! ### Words -/

/-- The two bytes of a word. -/
def wordBytes (w : UInt16) : List UInt8 :=
  leBytes 2 w.toNat

/-- The word that is read at an address. -/
def wordAt (f : ℕ → UInt8) (a : ℕ) : UInt16 :=
  UInt16.ofNat (leNat (slice f a 2))

@[simp] theorem length_wordBytes (w : UInt16) : (wordBytes w).length = 2 :=
  length_leBytes 2 w.toNat

theorem wordAt_of_slice {f : ℕ → UInt8} {a : ℕ} {w : UInt16} (h : slice f a 2 = wordBytes w) :
    wordAt f a = w := by
  rw [wordAt, h, wordBytes, leNat_leBytes_of_lt w.toNat_lt, UInt16.ofNat_toNat]

theorem toNat_wordAt (f : ℕ → UInt8) (a : ℕ) : (wordAt f a).toNat = leNat (slice f a 2) := by
  have hlt := leNat_lt (slice f a 2)
  rw [length_slice] at hlt
  exact Nat.mod_eq_of_lt hlt

/-! ### The processor -/

/-- The low half of the flags. Bit 1 is always set; the bits 3, 5 and 15 never are. -/
def Flags : Type :=
  { v : UInt16 // v &&& 0x802A = 2 }

/-- What is kept of a word that is loaded into the flags. -/
def Flags.load (v : UInt16) : Flags :=
  ⟨v &&& 0x7FD5 ||| 2, by
    have h : (v.toBitVec &&& 0x7FD5#16 ||| 2#16) &&& 0x802A#16 = 2#16 := by
      rw [BitVec.and_comm, BitVec.and_or_distrib_left, BitVec.and_comm v.toBitVec,
        ← BitVec.and_assoc]
      simp
    exact UInt16.toBitVec_inj.mp h⟩

/-- The flags without those for traps and for external interrupts. -/
def Flags.masked (fl : Flags) : Flags :=
  .load (fl.1 &&& 0xFCFF)

theorem Flags.load_val (fl : Flags) : Flags.load fl.1 = fl := by
  have h : fl.1.toBitVec &&& 0x7FD5#16 ||| fl.1.toBitVec &&& 0x802A#16 = fl.1.toBitVec := by
    rw [← BitVec.and_or_distrib_left]
    exact BitVec.and_allOnes
  have h' : fl.1 &&& 0x7FD5 ||| fl.1 &&& 0x802A = fl.1 := UInt16.toBitVec_inj.mp h
  rw [fl.2] at h'
  exact Subtype.ext h'

/-- The registers and what is in memory. The two halves of `ax` are kept apart. -/
@[ext] structure Cpu where
  ah : UInt8
  al : UInt8
  bx : UInt16
  cx : UInt16
  dx : UInt16
  si : UInt16
  di : UInt16
  bp : UInt16
  sp : UInt16
  cs : UInt16
  ds : UInt16
  es : UInt16
  ss : UInt16
  ip : UInt16
  flags : Flags
  /-- Where the vector table is, and the offset of its last byte. -/
  tableBase : ℕ
  tableLimit : ℕ
  mem : ℕ → UInt8

/-- The address of an offset in a segment. -/
def linear (segment offset : UInt16) : ℕ :=
  segment.toNat * 16 + offset.toNat

theorem linear_add {segment offset k : UInt16} (hk : offset.toNat + k.toNat < 0x10000) :
    linear segment (offset + k) = linear segment offset + k.toNat := by
  rw [linear, linear, UInt16.toNat_add, Nat.mod_eq_of_lt hk, Nat.add_assoc]

/-! ### Instructions -/

/-- The instructions of the subset. -/
inductive Instr
  | int (n : UInt8)
  | movAl (b : UInt8)
  | movDx (w : UInt16)
  | outDxAl
  | iret
  | hlt
deriving DecidableEq

/-- The bytes of an instruction. -/
def Instr.encode : Instr → List UInt8
  | .int n => [0xCD, n]
  | .movAl b => [0xB0, b]
  | .movDx w => 0xBA :: wordBytes w
  | .outDxAl => [0xEE]
  | .iret => [0xCF]
  | .hlt => [0xF4]

/-- The instruction some bytes begin with. -/
def decode : List UInt8 → Option Instr
  | 0xCD :: n :: _ => some (.int n)
  | 0xB0 :: b :: _ => some (.movAl b)
  | 0xBA :: lo :: hi :: _ => some (.movDx (UInt16.ofNat (leNat [lo, hi])))
  | 0xEE :: _ => some .outDxAl
  | 0xCF :: _ => some .iret
  | 0xF4 :: _ => some .hlt
  | _ => none

/-- An instruction is read back from its bytes, whatever follows them. -/
theorem decode_encode (i : Instr) (rest : List UInt8) : decode (i.encode ++ rest) = some i := by
  cases i with
  | movDx w =>
      obtain ⟨lo, hi, hw⟩ : ∃ lo hi, wordBytes w = [lo, hi] := ⟨_, _, rfl⟩
      have hback : UInt16.ofNat (leNat [lo, hi]) = w := by
        rw [← hw, wordBytes, leNat_leBytes_of_lt w.toNat_lt, UInt16.ofNat_toNat]
      rw [Instr.encode, hw]
      exact congrArg (fun w => some (Instr.movDx w)) hback
  | _ => rfl

theorem Instr.length_encode_le (i : Instr) : i.encode.length ≤ 3 := by
  cases i <;> simp [encode]

/-- Push a word. A word at the last offset of the segment would not fit. -/
def Cpu.push (w : UInt16) (c : Cpu) : Option Cpu :=
  if c.sp = 1 then none
  else some { c with
    sp := c.sp - 2
    mem := patch c.mem (linear c.ss (c.sp - 2)) (wordBytes w) }

/-- Take a word from the stack. -/
def Cpu.pop (c : Cpu) : Option (UInt16 × Cpu) :=
  if c.sp = 0xFFFF then none
  else some (wordAt c.mem (linear c.ss c.sp), { c with sp := c.sp + 2 })

/-- `int n`, when `ip` is already at the next instruction. -/
def Cpu.int (n : UInt8) (c : Cpu) : Option Cpu :=
  if c.tableLimit < 4 * n.toNat + 3 then none
  else do
    let c₁ ← c.push c.flags.1
    let c₂ ← c₁.push c.cs
    let c₃ ← c₂.push c.ip
    return { c₃ with
      flags := c.flags.masked
      cs := wordAt c₃.mem (c.tableBase + 4 * n.toNat + 2)
      ip := wordAt c₃.mem (c.tableBase + 4 * n.toNat) }

/-- `iret`. -/
def Cpu.iret (c : Cpu) : Option Cpu := do
  let (ip, c₁) ← c.pop
  let (cs, c₂) ← c₁.pop
  let (fl, c₃) ← c₂.pop
  return { c₃ with ip, cs, flags := .load fl }

/-- What an instruction does, and the bytes it writes to ports. -/
def Cpu.exec (c : Cpu) : Instr → Option (Cpu × List (UInt16 × UInt8))
  | .int n => (c.int n).map (·, [])
  | .movAl b => some ({ c with al := b }, [])
  | .movDx w => some ({ c with dx := w }, [])
  | .outDxAl => some (c, [(c.dx, c.al)])
  | .iret => c.iret.map (·, [])
  | .hlt => none

/-- Behind the next `len` bytes of code. -/
def Cpu.advance (c : Cpu) (len : ℕ) : Cpu :=
  { c with ip := c.ip + UInt16.ofNat len }

/-- One instruction. -/
def Cpu.step (c : Cpu) : Option (Cpu × List (UInt16 × UInt8)) :=
  match decode (slice c.mem (linear c.cs c.ip) 3) with
  | none => none
  | some i =>
      if c.ip.toNat + i.encode.length < 0x10000 then (c.advance i.encode.length).exec i else none

/-- The processor is at this code. -/
structure Cpu.At (c : Cpu) (bytes : List UInt8) : Prop where
  code : slice c.mem (linear c.cs c.ip) bytes.length = bytes
  inside : c.ip.toNat + bytes.length < 0x10000

/-- Code is executed from its beginning to its end. -/
theorem Cpu.At.split {c : Cpu} {bs cs : List UInt8} (h : c.At (bs ++ cs)) :
    c.At bs ∧ (c.advance bs.length).At cs := by
  have hinside := h.inside
  rw [List.length_append] at hinside
  have hlen : (UInt16.ofNat bs.length).toNat = bs.length := Nat.mod_eq_of_lt (by omega)
  have hcode := h.code
  rw [List.length_append, slice_add] at hcode
  obtain ⟨hbs, hcs⟩ := List.append_inj hcode (length_slice _ _ _)
  refine ⟨⟨hbs, by omega⟩, ?_, ?_⟩
  · show slice c.mem (linear c.cs (c.ip + UInt16.ofNat bs.length)) cs.length = cs
    rw [linear_add (by omega), hlen]
    exact hcs
  · show (c.ip + UInt16.ofNat bs.length).toNat + cs.length < 0x10000
    rw [UInt16.toNat_add, hlen]
    omega

/-- The instruction a processor is at is the one that it executes. -/
theorem Cpu.step_of_at {c : Cpu} {i : Instr} (h : c.At i.encode) :
    c.step = (c.advance i.encode.length).exec i := by
  have hsplit : slice c.mem (linear c.cs c.ip) 3 = i.encode ++
      slice c.mem (linear c.cs c.ip + i.encode.length) (3 - i.encode.length) := by
    have hadd := slice_add c.mem (linear c.cs c.ip) i.encode.length (3 - i.encode.length)
    rwa [Nat.add_sub_cancel' i.length_encode_le, h.code] at hadd
  rw [step, hsplit, decode_encode]
  exact if_pos h.inside

/-! ### Runs -/

/-- The processor comes from one state to the other, and writes these bytes to ports. -/
inductive Executes : Cpu → List (UInt16 × UInt8) → Cpu → Prop
  | refl (c : Cpu) : Executes c [] c
  | head {c c₁ c' : Cpu} {outs outs' : List (UInt16 × UInt8)} (hstep : c.step = some (c₁, outs))
      (hrest : Executes c₁ outs' c') : Executes c (outs ++ outs') c'

theorem Executes.trans {c c₁ c' : Cpu} {outs outs' : List (UInt16 × UInt8)}
    (h : Executes c outs c₁) (h' : Executes c₁ outs' c') : Executes c (outs ++ outs') c' := by
  induction h with
  | refl => exact h'
  | head hstep _ ih =>
      rw [List.append_assoc]
      exact .head hstep (ih h')

theorem Executes.single {c c' : Cpu} {outs : List (UInt16 × UInt8)} (h : c.step = some (c', outs)) :
    Executes c outs c' := by
  have hrun := Executes.head h (.refl c')
  rwa [List.append_nil] at hrun

/-- Go on with the instruction the processor has come to. -/
theorem Executes.exec {c c₁ c' : Cpu} {outs outs' : List (UInt16 × UInt8)} {i : Instr}
    (h : Executes c outs c₁) (hat : c₁.At i.encode)
    (hexec : (c₁.advance i.encode.length).exec i = some (c', outs')) :
    Executes c (outs ++ outs') c' :=
  h.trans (.single ((Cpu.step_of_at hat).trans hexec))

/-! ### Interrupts -/

/-- What `int` leaves on the stack: the address it returns to, and the flags. -/
def Cpu.frame (c : Cpu) : List UInt8 :=
  wordBytes c.ip ++ (wordBytes c.cs ++ wordBytes c.flags.1)

/-- Where it leaves it. -/
def Cpu.frameAddr (c : Cpu) : ℕ :=
  linear c.ss (c.sp - 6)

@[simp] theorem Cpu.length_frame (c : Cpu) : c.frame.length = 6 := by
  simp only [frame, List.length_append, length_wordBytes]

/-- It does not depend on where the code is. -/
theorem Cpu.frameAddr_advance (c : Cpu) (len : ℕ) : (c.advance len).frameAddr = c.frameAddr := by
  rw [frameAddr, frameAddr, advance]

/-- With the frame of an interrupt on the stack. -/
def Cpu.pushed (c : Cpu) : Cpu :=
  { c with sp := c.sp - 6, mem := patch c.mem c.frameAddr c.frame }

/-- At the handler of an interrupt. -/
def Cpu.entered (c : Cpu) (n : UInt8) : Cpu :=
  { c.pushed with
    flags := c.flags.masked
    cs := wordAt c.pushed.mem (c.tableBase + 4 * n.toNat + 2)
    ip := wordAt c.pushed.mem (c.tableBase + 4 * n.toNat) }

/-- A block that is written behind another one joins it. -/
theorem patch_patch_append {α : Type*} (f : ℕ → α) (a : ℕ) (bs cs : List α) :
    patch (patch f (a + bs.length) cs) a bs = patch f a (bs ++ cs) := by
  rw [patch_append]
  funext x
  by_cases hb : a ≤ x ∧ x < a + bs.length
  · obtain ⟨i, rfl⟩ : ∃ i, x = a + i := ⟨x - a, by omega⟩
    have hi : i < bs.length := by omega
    rw [patch_of_mem hi, patch_of_lt _ (by omega), patch_of_mem hi]
  · rw [patch_of_notMem hb]
    by_cases hc : a + bs.length ≤ x ∧ x < a + bs.length + cs.length
    · obtain ⟨i, rfl⟩ : ∃ i, x = a + bs.length + i := ⟨x - (a + bs.length), by omega⟩
      have hi : i < cs.length := by omega
      rw [patch_of_mem hi, patch_of_mem hi]
    · rw [patch_of_notMem hc, patch_of_notMem hc, patch_of_notMem hb]

theorem toNat_sub_add {a k : UInt16} (hk : k.toNat ≤ a.toNat) :
    (a - k).toNat + k.toNat = a.toNat := by
  rw [UInt16.toNat_sub_of_le a k (UInt16.le_iff_toNat_le.mpr hk), Nat.sub_add_cancel hk]

/-- The address of a word that is `k` bytes below the stack pointer. -/
theorem linear_sub {segment offset k : UInt16} (hk : k.toNat ≤ offset.toNat) :
    linear segment (offset - k) + k.toNat = linear segment offset := by
  rw [linear, linear, Nat.add_assoc, toNat_sub_add hk]

/-- There is room for a word above offset zero. -/
theorem Cpu.push_eq {c : Cpu} {w : UInt16} (hsp : 2 ≤ c.sp.toNat) :
    c.push w = some { c with
      sp := c.sp - 2
      mem := patch c.mem (linear c.ss (c.sp - 2)) (wordBytes w) } := by
  refine if_neg fun h => ?_
  rw [h] at hsp
  exact absurd hsp (by decide)

theorem Cpu.pop_eq {c : Cpu} {w : UInt16} (hsp : c.sp.toNat + 2 ≤ 0x10000)
    (hw : slice c.mem (linear c.ss c.sp) 2 = wordBytes w) :
    c.pop = some (w, { c with sp := c.sp + 2 }) := by
  rw [pop, if_neg, wordAt_of_slice hw]
  intro h
  rw [h] at hsp
  exact absurd hsp (by decide)

/-- The three words that an interrupt pushes. -/
theorem Cpu.int_eq {c : Cpu} {n : UInt8} (hn : 4 * n.toNat + 3 ≤ c.tableLimit)
    (hsp : 6 ≤ c.sp.toNat) : c.int n = some (c.entered n) := by
  have h2 : (2 : UInt16).toNat = 2 := rfl
  have h6 : (6 : UInt16).toNat = 6 := rfl
  have hsp₂ := @toNat_sub_add c.sp 2 (by rw [h2]; omega)
  have hsp₄ := @toNat_sub_add (c.sp - 2) 2 (by rw [h2]; omega)
  have hsp₆ : c.sp - 2 - 2 - 2 = c.sp - 6 := by grind
  have ha₂ : linear c.ss (c.sp - 2) = c.frameAddr + 4 := by
    have h₁ := @linear_sub c.ss c.sp 2 (by rw [h2]; omega)
    have h₂ := @linear_sub c.ss c.sp 6 (by rw [h6]; omega)
    rw [frameAddr]
    omega
  have ha₄ : linear c.ss (c.sp - 2 - 2) = c.frameAddr + 2 := by
    have h := @linear_sub c.ss (c.sp - 2) 2 (by rw [h2]; omega)
    omega
  have hmem : patch (patch (patch c.mem (c.frameAddr + 4) (wordBytes c.flags.1))
      (c.frameAddr + 2) (wordBytes c.cs)) c.frameAddr (wordBytes c.ip) =
        patch c.mem c.frameAddr c.frame := by
    have h₁ := patch_patch_append c.mem (c.frameAddr + 2) (wordBytes c.cs) (wordBytes c.flags.1)
    have h₂ := patch_patch_append c.mem c.frameAddr (wordBytes c.ip)
      (wordBytes c.cs ++ wordBytes c.flags.1)
    rw [length_wordBytes] at h₁ h₂
    rw [h₁, h₂, frame]
  rw [int, if_neg (Nat.not_lt.mpr hn), push_eq (by omega)]
  simp only [Option.bind_eq_bind, Option.bind_some]
  rw [push_eq (by show 2 ≤ (c.sp - 2).toNat; omega)]
  simp only [Option.bind_some]
  rw [push_eq (by show 2 ≤ (c.sp - 2 - 2).toNat; omega)]
  simp only [Option.bind_some, hsp₆, ha₂, ha₄, Option.pure_def]
  rw [← frameAddr, hmem]
  rfl

/-- The three words that `iret` takes back. -/
theorem Cpu.iret_eq {c : Cpu} {ip cs : UInt16} {fl : Flags} (hsp : c.sp.toNat + 6 ≤ 0x10000)
    (hframe : slice c.mem (linear c.ss c.sp) 6 = wordBytes ip ++ (wordBytes cs ++ wordBytes fl.1)) :
    c.iret = some { c with ip, cs, flags := fl, sp := c.sp + 6 } := by
  have h2 : (2 : UInt16).toNat = 2 := rfl
  have ha₂ : linear c.ss (c.sp + 2) = linear c.ss c.sp + 2 := linear_add (by rw [h2]; omega)
  have hsp₂ : (c.sp + 2).toNat = c.sp.toNat + 2 := by
    rw [UInt16.toNat_add, h2]
    omega
  have hsp₄ : (c.sp + 2 + 2).toNat = c.sp.toNat + 4 := by
    rw [UInt16.toNat_add, h2, hsp₂]
    omega
  have ha₄ : linear c.ss (c.sp + 2 + 2) = linear c.ss c.sp + 2 + 2 := by
    rw [← ha₂]
    exact linear_add (by rw [h2, hsp₂]; omega)
  have hsp₆ : c.sp + 2 + 2 + 2 = c.sp + 6 := by grind
  obtain ⟨hip, hrest⟩ := List.append_inj
    ((slice_add c.mem (linear c.ss c.sp) 2 4).symm.trans hframe)
    (by rw [length_slice, length_wordBytes])
  obtain ⟨hcs, hfl⟩ := List.append_inj
    ((slice_add c.mem (linear c.ss c.sp + 2) 2 2).symm.trans hrest)
    (by rw [length_slice, length_wordBytes])
  rw [iret, pop_eq (by omega) hip]
  simp only [Option.bind_eq_bind, Option.bind_some]
  rw [pop_eq (by simp only [hsp₂]; omega) (by simp only [ha₂]; exact hcs)]
  simp only [Option.bind_some]
  rw [pop_eq (by simp only [hsp₄]; omega) (by simp only [ha₄]; exact hfl)]
  simp only [Option.bind_some, hsp₆, Flags.load_val, Option.pure_def]

/-- **The rule for a handler.** If the body of the handler of interrupt `n` keeps the stack pointer
and the frame and ends at an `iret`, then the caller goes on behind the `int` with its own flags
and stack pointer. -/
theorem Executes.interrupt {c d : Cpu} {n : UInt8} {outs : List (UInt16 × UInt8)}
    (hat : c.At (Instr.int n).encode) (hn : 4 * n.toNat + 3 ≤ c.tableLimit)
    (hsp : 6 ≤ c.sp.toNat) (hbody : Executes ((c.advance 2).entered n) outs d)
    (hiret : d.At Instr.iret.encode) (hss : d.ss = c.ss) (hdsp : d.sp = c.sp - 6)
    (hframe : slice d.mem c.frameAddr 6 = (c.advance 2).frame) :
    Executes c outs { d with cs := c.cs, ip := c.ip + 2, flags := c.flags, sp := c.sp } := by
  have hint : c.step = some ((c.advance 2).entered n, []) := by
    rw [Cpu.step_of_at hat]
    exact congrArg (Option.map (·, [])) (@Cpu.int_eq (c.advance 2) n hn hsp)
  have hrun : Executes c outs d := .head hint hbody
  have hsp₆ : (c.sp - 6).toNat + 6 = c.sp.toNat := @toNat_sub_add c.sp 6 hsp
  have hback : (d.advance 1).iret = some { d with
      cs := c.cs, ip := c.ip + 2, flags := c.flags, sp := c.sp } := by
    rw [@Cpu.iret_eq (d.advance 1) (c.ip + 2) c.cs c.flags]
    · have hsp' : (d.advance 1).sp + 6 = c.sp := by
        show d.sp + 6 = c.sp
        rw [hdsp]
        grind
      rw [hsp']
      rfl
    · show d.sp.toNat + 6 ≤ 0x10000
      have := c.sp.toNat_lt
      rw [hdsp]
      omega
    · show slice d.mem (linear d.ss d.sp) 6 = _
      rw [hss, hdsp]
      exact hframe
  have hend := hrun.exec hiret (congrArg (Option.map (·, [])) hback)
  rwa [List.append_nil] at hend

end Lib.RealMode
