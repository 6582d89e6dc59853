import MoVm.Lib.Bytes

/-!
# Readers of Byte Images

Decoding a record from the bytes it occupies: a `Reader` takes a value off the front of a
byte sequence. `Reads p bs a` says that `p` takes exactly the bytes `bs` and returns `a`,
whatever follows; it is closed under sequencing, so that the image of a record is read by
the readers of its fields one after the other.

## Main results

* `Reads.bind`, `Reads.bind_u8`: fields one behind the other.
* `reads_u16`, `reads_u32`, `reads_u64`: little-endian integers.
* `reads_vector`: arrays of fixed length.
-/

namespace Lib

/-- A reader takes a value off the front of a byte sequence. -/
abbrev Reader (α : Type) := StateM (List UInt8) α

/-- The reader takes exactly these bytes and returns this value. -/
def Reads {α : Type} (p : Reader α) (bs : List UInt8) (a : α) : Prop :=
  ∀ rest, p (bs ++ rest) = (a, rest)

/-! ### Integers -/

/-- The next byte; zero at the end. -/
def readU8 : Reader UInt8 := fun bs => (bs.headD 0, bs.tail)

/-- A little-endian number of `w` bytes. -/
def readLe (w : ℕ) : Reader ℕ := fun bs => (leNat (bs.take w), bs.drop w)

/-- Two bytes, little-endian. -/
def readU16 : Reader UInt16 := do return UInt16.ofNat (← readLe 2)

/-- Four bytes, little-endian. -/
def readU32 : Reader UInt32 := do return UInt32.ofNat (← readLe 4)

/-- Eight bytes, little-endian. -/
def readU64 : Reader UInt64 := do return UInt64.ofNat (← readLe 8)

variable {α β : Type}

/-- Returning a value takes no bytes. -/
theorem Reads.pure (a : α) : Reads (pure a) [] a := fun _ => rfl

/-- Values one behind the other. -/
theorem Reads.bind {p : Reader α} {f : α → Reader β} {bs cs : List UInt8} {a : α} {b : β}
    (hp : Reads p bs a) (hf : Reads (f a) cs b) : Reads (p >>= f) (bs ++ cs) b := by
  intro rest
  rw [List.append_assoc]
  show f (p (bs ++ (cs ++ rest))).1 (p (bs ++ (cs ++ rest))).2 = (b, rest)
  rw [hp (cs ++ rest)]
  exact hf rest

/-- A function of what was read. -/
theorem Reads.map {p : Reader α} {bs : List UInt8} {a : α} (f : α → β) (hp : Reads p bs a) :
    Reads (do return f (← p)) bs (f a) := by
  intro rest
  show (f (p (bs ++ rest)).1, (p (bs ++ rest)).2) = (f a, rest)
  rw [hp rest]

/-- A byte in front. -/
theorem Reads.bind_u8 {f : UInt8 → Reader β} {cs : List UInt8} {x : UInt8} {b : β}
    (hf : Reads (f x) cs b) : Reads (readU8 >>= f) (x :: cs) b := by
  have hx : Reads readU8 [x] x := fun _ => rfl
  exact hx.bind hf

/-- What is read from the bytes alone. -/
theorem Reads.run {p : Reader α} {bs : List UInt8} {a : α} (h : Reads p bs a) : (p bs).1 = a := by
  have := h []
  rw [List.append_nil] at this
  rw [this]

/-- A number that fits is read back. -/
theorem reads_le {w n : ℕ} (h : n < 256 ^ w) : Reads (readLe w) (leBytes w n) n := by
  intro rest
  rw [readLe, List.take_left' (length_leBytes w n), List.drop_left' (length_leBytes w n),
    leNat_leBytes_of_lt h]

/-- A `u16` is read back. -/
theorem reads_u16 (x : UInt16) : Reads readU16 (leBytes 2 x.toNat) x := by
  have hlt := x.toNat_lt
  have hread := (reads_le (w := 2) (by omega)).map UInt16.ofNat
  rwa [UInt16.ofNat_toNat] at hread

/-- A `u32` is read back. -/
theorem reads_u32 (x : UInt32) : Reads readU32 (leBytes 4 x.toNat) x := by
  have hlt := x.toNat_lt
  have hread := (reads_le (w := 4) (by omega)).map UInt32.ofNat
  rwa [UInt32.ofNat_toNat] at hread

/-- A `u64` is read back. -/
theorem reads_u64 (x : UInt64) : Reads readU64 (leBytes 8 x.toNat) x := by
  have hlt := x.toNat_lt
  have hread := (reads_le (w := 8) (by omega)).map UInt64.ofNat
  rwa [UInt64.ofNat_toNat] at hread

/-! ### Arrays -/

/-- An array of fixed length. -/
def readVector (p : Reader α) : (n : ℕ) → Reader (Vector α n)
  | 0 => return #v[]
  | n + 1 => do
      let a ← p
      let v ← readVector p n
      return ⟨(a :: v.toList).toArray, by simp⟩

/-- The elements of an array one behind the other. -/
theorem reads_vector {p : Reader α} {encode : α → List UInt8} (hp : ∀ a, Reads p (encode a) a)
    {n : ℕ} (v : Vector α n) : Reads (readVector p n) (v.toList.flatMap encode) v := by
  induction n with
  | zero =>
      obtain ⟨⟨l⟩, hl⟩ := v
      obtain rfl := List.eq_nil_of_length_eq_zero hl
      exact Reads.pure _
  | succ n ih =>
      obtain ⟨⟨l⟩, hl⟩ := v
      cases l with
      | nil => cases hl
      | cons a l =>
          have hrest := (ih ⟨⟨l⟩, Nat.succ.inj hl⟩).map fun v : Vector α n =>
            (⟨(a :: v.toList).toArray, by simp⟩ : Vector α (n + 1))
          exact (hp a).bind (f := fun a => do
            let v ← readVector p n
            return (⟨(a :: v.toList).toArray, by simp⟩ : Vector α (n + 1))) hrest

end Lib
