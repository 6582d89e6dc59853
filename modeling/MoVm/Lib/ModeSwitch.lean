import MoVm.Lib.Bytes
import MoVm.Lib.Interleaving

/-!
# A Processor on Its Way to Protected Mode

The instructions with which a boot sector leaves real mode: it loads a table of segment descriptors,
sets the first bit of `cr0` and jumps to a code segment of the table. A segment register has a
hidden part besides its selector. In real mode a load sets the base in it to sixteen times the
selector; in protected mode all of it comes from the descriptor, which the processor marks as
accessed.

What a processor reads from memory is put together in a `View`: code, operands of `lgdt`, and
descriptors. A view may know less than all of memory, and a processor that gets along with the
smaller one does the same on the larger one (`Cpu.next_mono`). That is how a run on known bytes is
carried over to every memory that contains them.

`Cpu.step` has no value where the processor would raise a fault, and on everything that is not
modelled: other instructions, system segments, conforming code, segments that expand down, local
tables, null selectors, and writes to `cr0` that change more than the first bit. The processor stays
at privilege level 0, which nothing here changes. Of the flags only the one for interrupts is kept.
-/

namespace Lib.ModeSwitch

/-! ### Registers -/

/-- The general registers, in the order of their numbers. -/
inductive Reg
  | eax | ecx | edx | ebx | esp | ebp | esi | edi
deriving DecidableEq

/-- The segment registers, in the order of their numbers. -/
inductive Seg
  | es | cs | ss | ds | fs | gs
deriving DecidableEq

/-- The register in the low bits of a byte. -/
def Reg.decode (b : UInt8) : Option Reg :=
  [Reg.eax, .ecx, .edx, .ebx, .esp, .ebp, .esi, .edi][(b &&& 7).toNat]?

/-- The segment register in the middle bits of a byte. -/
def Seg.decode (b : UInt8) : Option Seg :=
  [Seg.es, .cs, .ss, .ds, .fs, .gs][(b >>> 3 &&& 7).toNat]?

/-- What is in a general register. The halves are kept apart, since an operation on sixteen bits
keeps the upper one. -/
@[ext] structure Gpr where
  high : UInt16
  low : UInt16
deriving DecidableEq

/-- A register with these 32 bits. -/
def Gpr.ofUInt32 (d : UInt32) : Gpr :=
  ⟨(d >>> 16).toUInt16, d.toUInt16⟩

/-- All 32 bits. -/
def Gpr.toUInt32 (g : Gpr) : UInt32 :=
  g.high.toUInt32 <<< 16 ||| g.low.toUInt32

/-- A byte with its sign extended to 32 bits. -/
def signExtend (b : UInt8) : UInt32 :=
  b.toInt8.toInt32.toUInt32

/-- A segment register with its hidden part: where the segment begins, the offset of its last byte,
and whether it is one of 32 bits. -/
structure SegReg where
  selector : UInt16
  base : ℕ
  limit : ℕ
  big : Bool
deriving DecidableEq

/-- The processor, without its memory. -/
structure Cpu where
  reg : Reg → Gpr
  seg : Seg → SegReg
  eip : ℕ
  cr0 : UInt32
  gdtBase : ℕ
  gdtLimit : ℕ
  interrupts : Bool

/-- Whether the processor is in protected mode. -/
def Cpu.isProtected (c : Cpu) : Bool :=
  c.cr0.toNat % 2 = 1

def Cpu.setReg (c : Cpu) (r : Reg) (g : Gpr) : Cpu :=
  { c with reg := Function.update c.reg r g }

def Cpu.setSeg (c : Cpu) (s : Seg) (x : SegReg) : Cpu :=
  { c with seg := Function.update c.seg s x }

/-! ### Instructions -/

/-- The instructions of the subset. -/
inductive Instr
  | movImm16 (r : Reg) (w : UInt16)
  | movImm32 (r : Reg) (d : UInt32)
  | movAl (b : UInt8)
  | xor16 (d s : Reg)
  | or32 (r : Reg) (b : UInt8)
  | movSeg (s : Seg) (r : Reg)
  | movFromCr0 (r : Reg)
  | movToCr0 (r : Reg)
  | outDxAl
  | cli
  | lgdt (a : UInt16)
  | jmpFar (off sel : UInt16)
  | jmpReg (r : Reg)
deriving DecidableEq

/-- An instruction and its length, behind the byte that changes the size of operands. `big` says
whether the code segment is one of 32 bits, `wide` whether the operands are. -/
def decodeOp (big wide : Bool) : List UInt8 → Option (Instr × ℕ)
  | 0x0F :: 0x01 :: 0x16 :: lo :: hi :: _ =>
      if big || wide then none else some (.lgdt (UInt16.ofNat (leNat [lo, hi])), 5)
  | 0x0F :: 0x20 :: b :: _ =>
      if b &&& 0xF8 = 0xC0 then (Reg.decode b).map (.movFromCr0 ·, 3) else none
  | 0x0F :: 0x22 :: b :: _ =>
      if b &&& 0xF8 = 0xC0 then (Reg.decode b).map (.movToCr0 ·, 3) else none
  | 0x31 :: b :: _ =>
      if wide || b < 0xC0 then none
      else do return (.xor16 (← Reg.decode b) (← Reg.decode (b >>> 3)), 2)
  | 0x83 :: b :: n :: _ =>
      if wide && b &&& 0xF8 = 0xC8 then (Reg.decode b).map (.or32 · n, 3) else none
  | 0x8E :: b :: _ =>
      if b < 0xC0 then none else do return (.movSeg (← Seg.decode b) (← Reg.decode b), 2)
  | 0xB0 :: b :: _ => some (.movAl b, 2)
  | 0xEA :: a₀ :: a₁ :: s₀ :: s₁ :: _ =>
      if wide then none
      else some (.jmpFar (UInt16.ofNat (leNat [a₀, a₁])) (UInt16.ofNat (leNat [s₀, s₁])), 5)
  | 0xEE :: _ => some (.outDxAl, 1)
  | 0xFA :: _ => some (.cli, 1)
  | 0xFF :: b :: _ =>
      if wide && b &&& 0xF8 = 0xE0 then (Reg.decode b).map (.jmpReg ·, 2) else none
  | b :: rest =>
      if b &&& 0xF8 ≠ 0xB8 then none
      else match wide, rest with
        | true, d₀ :: d₁ :: d₂ :: d₃ :: _ =>
            (Reg.decode b).map (.movImm32 · (UInt32.ofNat (leNat [d₀, d₁, d₂, d₃])), 5)
        | false, d₀ :: d₁ :: _ =>
            (Reg.decode b).map (.movImm16 · (UInt16.ofNat (leNat [d₀, d₁])), 3)
        | _, _ => none
  | [] => none

/-- The instruction that some bytes begin with, and its length. -/
def decode (big : Bool) : List UInt8 → Option (Instr × ℕ)
  | 0x66 :: bytes => (decodeOp big (!big) bytes).map fun (i, n) => (i, n + 1)
  | bytes => decodeOp big big bytes

/-- The longest instruction of the subset. -/
def maxLength : ℕ := 6

/-! ### Descriptors -/

/-- A segment of code or of data. -/
structure SegDesc where
  base : ℕ
  limit : ℕ
  big : Bool
  code : Bool
  writable : Bool
  dpl : ℕ
  present : Bool
deriving DecidableEq

/-- The descriptor in eight bytes. It does not tell whether the segment has been accessed. -/
def SegDesc.decode : List UInt8 → Option SegDesc
  | [l₀, l₁, b₀, b₁, b₂, access, fl, b₃] =>
      if access &&& 0x14 = 0x10 then
        let limit := leNat [l₀, l₁, fl &&& 0x0F]
        some {
          base := leNat [b₀, b₁, b₂, b₃]
          limit := if fl &&& 0x80 = 0 then limit else limit * 4096 + 4095
          big := fl &&& 0x40 ≠ 0
          code := access &&& 8 ≠ 0
          writable := access &&& 2 ≠ 0
          dpl := (access >>> 5 &&& 3).toNat
          present := access &&& 0x80 ≠ 0 }
      else none
  | _ => none

/-- Where the access byte is in a descriptor. -/
def accessOffset : ℕ := 5

/-- What a segment register holds once the descriptor is loaded. -/
def SegDesc.toSegReg (d : SegDesc) (selector : UInt16) : SegReg :=
  ⟨selector, d.base, d.limit, d.big⟩

/-! ### Views -/

/-- What is known of a memory: the instructions at some addresses, the operands of `lgdt`, as a
limit and a base, and descriptors. -/
structure View where
  fetch : Bool → ℕ → Option (Instr × ℕ)
  table : ℕ → Option (ℕ × ℕ)
  entry : ℕ → Option SegDesc

/-- All that is in a memory. The base that `lgdt` loads has 24 bits. -/
def View.ofMem (m : ℕ → UInt8) : View where
  fetch big a := decode big (slice m a maxLength)
  table a := some (leNat (slice m a 2), leNat (slice m (a + 2) 3))
  entry a := SegDesc.decode (slice m a 8)

/-- The second view knows everything that the first one knows. -/
structure View.Le (v w : View) : Prop where
  fetch : ∀ {big a x}, v.fetch big a = some x → w.fetch big a = some x
  table : ∀ {a x}, v.table a = some x → w.table a = some x
  entry : ∀ {a x}, v.entry a = some x → w.entry a = some x

/-! ### Steps -/

/-- The bytes that are written to ports. -/
abbrev Ports := List (UInt16 × UInt8)

/-- Where the descriptor of a selector is. -/
def Cpu.entryAddr (c : Cpu) (sel : UInt16) : Option ℕ :=
  let index := sel.toNat / 8
  if sel.toNat / 4 % 2 = 0 ∧ index ≠ 0 ∧ 8 * index + 7 ≤ c.gdtLimit
  then some (c.gdtBase + 8 * index) else none

/-- Whether a data segment may be loaded into a segment register. -/
def SegDesc.fitsData (d : SegDesc) (s : Seg) (rpl : ℕ) : Bool :=
  d.present && !d.code && (if s = .ss then d.writable && rpl = 0 && d.dpl = 0 else rpl ≤ d.dpl)

/-- Whether a code segment may be jumped to. -/
def SegDesc.fitsJump (d : SegDesc) (off rpl : ℕ) : Bool :=
  d.present && d.code && rpl = 0 && d.dpl = 0 && off ≤ d.limit

/-- The descriptor of a selector, and the address of the byte that marks it as accessed. -/
def Cpu.select (v : View) (c : Cpu) (sel : UInt16) (fits : SegDesc → Bool) :
    Option (SegDesc × ℕ) := do
  let a ← c.entryAddr sel
  let d ← v.entry a
  if fits d then some (d, a + accessOffset) else none

/-- Load a segment register other than `cs`. -/
def Cpu.loadSeg (v : View) (c : Cpu) (s : Seg) (sel : UInt16) : Option (Cpu × Option ℕ) :=
  if s = .cs then none
  else if c.isProtected then
    (c.select v sel (·.fitsData s (sel.toNat % 4))).map fun (d, b) =>
      (c.setSeg s (d.toSegReg sel), some b)
  else some (c.setSeg s { c.seg s with selector := sel, base := sel.toNat * 16 }, none)

/-- A jump to another code segment. -/
def Cpu.jmpFar (v : View) (c : Cpu) (off sel : UInt16) : Option (Cpu × Option ℕ) :=
  if c.isProtected then
    (c.select v sel (·.fitsJump off.toNat (sel.toNat % 4))).map fun (d, b) =>
      ({ c.setSeg .cs (d.toSegReg sel) with eip := off.toNat }, some b)
  else if off.toNat ≤ (c.seg .cs).limit then
    some ({ c.setSeg .cs { c.seg .cs with selector := sel, base := sel.toNat * 16 } with
      eip := off.toNat }, none)
  else none

/-- Load the address and the limit of the table. -/
def Cpu.lgdt (v : View) (c : Cpu) (a : UInt16) : Option Cpu :=
  if a.toNat + 5 ≤ (c.seg .ds).limit then
    (v.table ((c.seg .ds).base + a.toNat)).map fun (limit, base) =>
      { c with gdtBase := base, gdtLimit := limit }
  else none

/-- A write to `cr0` that changes nothing but the first bit. -/
def Cpu.setCr0 (c : Cpu) (d : UInt32) : Option Cpu :=
  if d.toNat / 2 = c.cr0.toNat / 2 then some { c with cr0 := d } else none

/-- A jump inside the code segment. -/
def Cpu.jmp (c : Cpu) (target : ℕ) : Option Cpu :=
  if target ≤ (c.seg .cs).limit then some { c with eip := target } else none

/-- What an instruction does when `eip` is already behind it: the processor, the bytes for ports,
and the byte that is marked as accessed. -/
def Cpu.exec (v : View) (c : Cpu) : Instr → Option (Cpu × Ports × Option ℕ)
  | .movImm16 r w => some (c.setReg r { c.reg r with low := w }, [], none)
  | .movImm32 r d => some (c.setReg r (.ofUInt32 d), [], none)
  | .movAl b =>
      some (c.setReg .eax { c.reg .eax with
        low := (c.reg .eax).low &&& 0xFF00 ||| b.toUInt16 }, [], none)
  | .xor16 d s =>
      some (c.setReg d { c.reg d with low := (c.reg d).low ^^^ (c.reg s).low }, [], none)
  | .or32 r b => some (c.setReg r (.ofUInt32 ((c.reg r).toUInt32 ||| signExtend b)), [], none)
  | .movSeg s r => (c.loadSeg v s (c.reg r).low).map fun (c', b) => (c', [], b)
  | .movFromCr0 r => some (c.setReg r (.ofUInt32 c.cr0), [], none)
  | .movToCr0 r => (c.setCr0 (c.reg r).toUInt32).map (·, [], none)
  | .outDxAl => some (c, [((c.reg .edx).low, (c.reg .eax).low.toUInt8)], none)
  | .cli => some ({ c with interrupts := false }, [], none)
  | .lgdt a => (c.lgdt v a).map (·, [], none)
  | .jmpFar off sel => (c.jmpFar v off sel).map fun (c', b) => (c', [], b)
  | .jmpReg r => (c.jmp (c.reg r).toUInt32.toNat).map (·, [], none)

/-- Where the next instruction is. -/
def Cpu.codeAddr (c : Cpu) : ℕ :=
  (c.seg .cs).base + c.eip

/-- One instruction, with what is known of the memory. -/
def Cpu.next (v : View) (c : Cpu) : Option (Cpu × Ports × Option ℕ) := do
  let (i, len) ← v.fetch (c.seg .cs).big c.codeAddr
  if c.eip + len ≤ (c.seg .cs).limit + 1 then Cpu.exec v { c with eip := c.eip + len } i else none

/-- Mark a descriptor as accessed. -/
def mark (m : ℕ → UInt8) : Option ℕ → ℕ → UInt8
  | none => m
  | some a => Function.update m a (m a ||| 1)

/-- One instruction. -/
def Cpu.step (c : Cpu) (m : ℕ → UInt8) : Option (Cpu × (ℕ → UInt8) × Ports) :=
  (c.next (.ofMem m)).map fun (c', outs, a) => (c', mark m a, outs)

/-- One instruction of a processor for which the view stands for its memory. -/
def Cpu.solo (v : View) (c : Cpu) : Option (Cpu × Ports) :=
  (c.next v).map fun (c', outs, _) => (c', outs)

/-! ### More memory, the same run -/

variable {v w : View} {c c' : Cpu} {outs : Ports} {mk : Option ℕ} {i : Instr}

theorem Cpu.select_eq_some {sel : UInt16} {fits : SegDesc → Bool} {d : SegDesc} {b : ℕ} :
    c.select v sel fits = some (d, b) ↔
      ∃ a, c.entryAddr sel = some a ∧ v.entry a = some d ∧ fits d = true ∧
        b = a + accessOffset := by
  simp only [select, Option.bind_eq_bind, Option.bind_eq_some_iff, Option.ite_none_right_eq_some,
    Option.some.injEq, Prod.mk.injEq]
  constructor
  · rintro ⟨a, ha, d', hd, hfits, rfl, rfl⟩
    exact ⟨a, ha, hd, hfits, rfl⟩
  · rintro ⟨a, ha, hd, hfits, rfl⟩
    exact ⟨a, ha, d, hd, hfits, rfl, rfl⟩

theorem Cpu.select_mono {sel : UInt16} {fits : SegDesc → Bool} {x : SegDesc × ℕ}
    (hvw : v.Le w) (h : c.select v sel fits = some x) : c.select w sel fits = some x := by
  obtain ⟨a, ha, hd, hfits, hb⟩ := select_eq_some.mp h
  exact select_eq_some.mpr ⟨a, ha, hvw.entry hd, hfits, hb⟩

theorem Cpu.exec_mono {x : Cpu × Ports × Option ℕ} (hvw : v.Le w) (h : c.exec v i = some x) :
    c.exec w i = some x := by
  cases i with
  | movSeg s r =>
      obtain ⟨y, hy, rfl⟩ := Option.map_eq_some_iff.mp h
      refine Option.map_eq_some_iff.mpr ⟨y, ?_, rfl⟩
      unfold loadSeg at hy ⊢
      split_ifs at hy ⊢ with hcs hprot
      · obtain ⟨z, hz, rfl⟩ := Option.map_eq_some_iff.mp hy
        exact Option.map_eq_some_iff.mpr ⟨z, select_mono hvw hz, rfl⟩
      · exact hy
  | jmpFar off sel =>
      obtain ⟨y, hy, rfl⟩ := Option.map_eq_some_iff.mp h
      refine Option.map_eq_some_iff.mpr ⟨y, ?_, rfl⟩
      unfold jmpFar at hy ⊢
      split_ifs at hy ⊢ with hprot hoff
      · obtain ⟨z, hz, rfl⟩ := Option.map_eq_some_iff.mp hy
        exact Option.map_eq_some_iff.mpr ⟨z, select_mono hvw hz, rfl⟩
      · exact hy
  | lgdt a =>
      obtain ⟨y, hy, rfl⟩ := Option.map_eq_some_iff.mp h
      refine Option.map_eq_some_iff.mpr ⟨y, ?_, rfl⟩
      unfold lgdt at hy ⊢
      split_ifs at hy ⊢ with hlimit
      obtain ⟨z, hz, rfl⟩ := Option.map_eq_some_iff.mp hy
      exact Option.map_eq_some_iff.mpr ⟨z, hvw.table hz, rfl⟩
  | _ => exact h

/-- **A processor that gets along with a view does the same on every larger one.** -/
theorem Cpu.next_mono {x : Cpu × Ports × Option ℕ} (hvw : v.Le w) (h : c.next v = some x) :
    c.next w = some x := by
  simp only [next, Option.bind_eq_bind, Option.bind_eq_some_iff] at h ⊢
  obtain ⟨y, hy, hx⟩ := h
  refine ⟨y, hvw.fetch hy, ?_⟩
  split_ifs at hx ⊢ with hlimit
  exact exec_mono hvw hx

/-- A load changes one segment register, and marks no descriptor but one of the view. -/
theorem Cpu.loadSeg_spec {s : Seg} {sel : UInt16} (h : c.loadSeg v s sel = some (c', mk)) :
    s ≠ .cs ∧ (∃ x, c' = c.setSeg s x) ∧
      ∀ b, mk = some b → ∃ a d, v.entry a = some d ∧ b = a + accessOffset := by
  unfold loadSeg at h
  split_ifs at h with hcs hprot
  · obtain ⟨⟨d, b⟩, hd, hx⟩ := Option.map_eq_some_iff.mp h
    obtain ⟨rfl, rfl⟩ := Prod.mk.inj hx
    obtain ⟨a, -, hentry, -, rfl⟩ := select_eq_some.mp hd
    exact ⟨hcs, ⟨_, rfl⟩, fun _ hb => ⟨a, d, hentry, (Option.some.inj hb).symm⟩⟩
  · obtain ⟨rfl, rfl⟩ := Prod.mk.inj (Option.some.inj h)
    exact ⟨hcs, ⟨_, rfl⟩, fun _ hb => by cases hb⟩

theorem Cpu.jmpFar_marks {off sel : UInt16} {b : ℕ} (h : c.jmpFar v off sel = some (c', some b)) :
    ∃ a d, v.entry a = some d ∧ b = a + accessOffset := by
  unfold jmpFar at h
  split_ifs at h with hprot hoff
  · obtain ⟨⟨d, b'⟩, hd, hx⟩ := Option.map_eq_some_iff.mp h
    obtain ⟨-, hb⟩ := Prod.mk.inj hx
    obtain rfl := Option.some.inj hb
    obtain ⟨a, -, hentry, -, hb'⟩ := select_eq_some.mp hd
    exact ⟨a, d, hentry, hb'⟩
  · cases (Prod.mk.inj (Option.some.inj h)).2

/-- Only descriptors that the view knows are marked. -/
theorem Cpu.next_marks {b : ℕ} (h : c.next v = some (c', outs, some b)) :
    ∃ a d, v.entry a = some d ∧ b = a + accessOffset := by
  simp only [next, Option.bind_eq_bind, Option.bind_eq_some_iff] at h
  obtain ⟨⟨i, len⟩, -, hx⟩ := h
  split_ifs at hx with hlimit
  cases i with
  | movSeg s r =>
      obtain ⟨⟨c₁, mk⟩, hload, hmk⟩ := Option.map_eq_some_iff.mp hx
      exact (loadSeg_spec hload).2.2 b (Prod.mk.inj (Prod.mk.inj hmk).2).2
  | jmpFar off sel =>
      obtain ⟨⟨c₁, mk⟩, hjmp, hmk⟩ := Option.map_eq_some_iff.mp hx
      obtain rfl : mk = some b := (Prod.mk.inj (Prod.mk.inj hmk).2).2
      exact jmpFar_marks hjmp
  | lgdt a | movToCr0 r | jmpReg r =>
      obtain ⟨c₁, -, hmk⟩ := Option.map_eq_some_iff.mp hx
      cases (Prod.mk.inj (Prod.mk.inj hmk).2).2
  | _ => cases (Prod.mk.inj (Prod.mk.inj (Option.some.inj hx)).2).2

/-- An instruction that puts something out puts out one byte, and leaves the memory alone. -/
theorem Cpu.step_ports {m m' : ℕ → UInt8} (h : c.step m = some (c', m', outs)) :
    outs = [] ∨ ∃ o, outs = [o] ∧ m' = m := by
  obtain ⟨⟨c₁, outs₁, mk⟩, hnext, hx⟩ := Option.map_eq_some_iff.mp h
  obtain ⟨rfl, rfl⟩ := Prod.mk.inj (Prod.mk.inj hx).2
  simp only [next, Option.bind_eq_bind, Option.bind_eq_some_iff] at hnext
  obtain ⟨⟨i, len⟩, -, hexec⟩ := hnext
  split_ifs at hexec with hlimit
  cases i with
  | outDxAl =>
      obtain ⟨rfl, rfl⟩ := Prod.mk.inj (Prod.mk.inj (Option.some.inj hexec)).2
      exact .inr ⟨_, rfl, rfl⟩
  | movSeg s r | jmpFar off sel | movToCr0 r | lgdt a | jmpReg r =>
      obtain ⟨_, -, hx⟩ := Option.map_eq_some_iff.mp hexec
      exact .inl (Prod.mk.inj (Prod.mk.inj hx).2).1.symm
  | _ => exact .inl (Prod.mk.inj (Prod.mk.inj (Option.some.inj hexec)).2).1.symm

/-! ### Code without jumps -/

/-- The instructions that go on elsewhere. -/
def Instr.isJump : Instr → Bool
  | .jmpFar .. | .jmpReg _ => true
  | _ => false

/-- All others leave the processor where it is in its code. -/
theorem Cpu.exec_plain (hi : i.isJump = false) (h : c.exec v i = some (c', outs, mk)) :
    c'.seg .cs = c.seg .cs ∧ c'.eip = c.eip := by
  cases i with
  | jmpFar off sel | jmpReg r => cases hi
  | movSeg s r =>
      obtain ⟨⟨c₁, mk'⟩, hload, hx⟩ := Option.map_eq_some_iff.mp h
      obtain rfl := (Prod.mk.inj hx).1
      obtain ⟨hs, ⟨x, rfl⟩, -⟩ := loadSeg_spec hload
      exact ⟨Function.update_of_ne (Ne.symm hs) _ _, rfl⟩
  | lgdt a =>
      obtain ⟨c₁, hlgdt, hx⟩ := Option.map_eq_some_iff.mp h
      obtain rfl := (Prod.mk.inj hx).1
      obtain ⟨-, hsome⟩ := Option.ite_none_right_eq_some.mp hlgdt
      obtain ⟨t, -, rfl⟩ := Option.map_eq_some_iff.mp hsome
      exact ⟨rfl, rfl⟩
  | movToCr0 r =>
      obtain ⟨c₁, hcr0, hx⟩ := Option.map_eq_some_iff.mp h
      obtain rfl := (Prod.mk.inj hx).1
      obtain ⟨-, hsome⟩ := Option.ite_none_right_eq_some.mp hcr0
      obtain rfl := Option.some.inj hsome
      exact ⟨rfl, rfl⟩
  | _ =>
      obtain ⟨rfl, -⟩ := Prod.mk.inj (Option.some.inj h)
      exact ⟨rfl, rfl⟩

/-- These instructions, given with their lengths, are what is found from `eip` on in a code segment;
only the last one may be a jump. -/
def Listed (v : View) (x : SegReg) : ℕ → List (Instr × ℕ) → Prop
  | _, [] => True
  | eip, (i, len) :: is =>
      v.fetch x.big (x.base + eip) = some (i, len) ∧ eip + len ≤ x.limit + 1 ∧
        (i.isJump = true → is = []) ∧ Listed v x (eip + len) is

instance Listed.decidable (v : View) (x : SegReg) :
    ∀ eip is, Decidable (Listed v x eip is)
  | _, [] => isTrue trivial
  | eip, (_, len) :: is =>
      haveI := Listed.decidable v x (eip + len) is
      inferInstanceAs (Decidable (_ ∧ _ ∧ _ ∧ _))

/-- The instructions of a listing, one after the other. -/
def Cpu.execList (v : View) : List (Instr × ℕ) → Cpu → Option (Cpu × Ports)
  | [], c => some (c, [])
  | (i, len) :: is, c => do
      let (c₁, outs, _) ← Cpu.exec v { c with eip := c.eip + len } i
      let (c₂, outs') ← execList v is c₁
      return (c₂, outs ++ outs')

/-- **A processor executes the listing that it is at.** -/
theorem Cpu.soloRun_listed {is : List (Instr × ℕ)} (hlisted : Listed v (c.seg .cs) c.eip is)
    (h : execList v is c = some (c', outs)) :
    soloRun (Cpu.solo v) is.length c = some (c', outs) := by
  induction is generalizing c c' outs with
  | nil => exact h
  | cons x is ih =>
      obtain ⟨i, len⟩ := x
      obtain ⟨hfetch, hlimit, hjump, hrest⟩ := hlisted
      simp only [execList, Option.bind_eq_bind, Option.bind_eq_some_iff, Option.pure_def] at h
      obtain ⟨⟨c₁, outs₁, mk⟩, hexec, ⟨c₂, outs₂⟩, hlist, hx⟩ := h
      obtain ⟨rfl, rfl⟩ := Prod.mk.inj (Option.some.inj hx)
      have hsolo : c.solo v = some (c₁, outs₁) := by
        simp only [solo, next, codeAddr, hfetch, Option.bind_eq_bind, Option.bind_some,
          if_pos hlimit, hexec, Option.map_some]
      have htail : soloRun (Cpu.solo v) is.length c₁ = some (c₂, outs₂) := by
        cases hi : i.isJump with
        | true =>
            obtain rfl := hjump hi
            exact hlist
        | false =>
            obtain ⟨hcs, heip⟩ := exec_plain hi hexec
            exact ih (by rw [hcs, heip]; exact hrest) hlist
      rw [List.length_cons, Nat.add_comm]
      exact soloRun_add (soloRun_one hsolo) htail

end Lib.ModeSwitch
