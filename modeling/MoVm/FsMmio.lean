import MoVm.Lib.Trace
import MoVm.Machine

/-!
# The MMIO Area of the File System State

`FsState` of `virtio/fs.rs` keeps a byte array that is as long as the MMIO region it is created
with, and two calls on it: `mmio_read` copies from it, `mmio_write` into it. Both compare the end
of the range, computed as a `usize`, with the length of the array.

An access whose range does not pass `2 ^ 64` cannot wrap, and then the array is an address space
of its own: `mmio_cases` says what an access does, and `mmio_last_writer` adds it up over any
sequence of them.

## Main results

* `mmio_last_writer`: which accesses succeed, and what a read returns after any sequence.
* `mmio_refused_iff`: an access past the end of the area is refused when its range does not pass
  `2 ^ 64`.
-/

open Lib

namespace MoVm

/-! ### The accesses -/

/-- `offset + data.len()` as a `usize`, which wraps around in a release build. -/
def mmioEnd (offset : UInt64) (data : List UInt8) : ℕ :=
  (offset.toNat + data.length) % 2 ^ 64

/-- `FsState::mmio_read`: the buffer afterwards, and the result. Slicing panics when the range
ends before it starts. -/
def FsState.mmioRead (s : FsState) (offset : UInt64) (data : List UInt8) :
    List UInt8 × Outcome HypervisorError Unit :=
  if mmioEnd offset data > s.mmioData.length then (data, .err (.ioError "Invalid offset"))
  else if offset.toNat > mmioEnd offset data then (data, .panic)
  else (load s.mmioData offset.toNat data.length, .ok ())

/-- `FsState::mmio_write`. -/
def FsState.mmioWrite (s : FsState) (offset : UInt64) (data : List UInt8) :
    FsState × Outcome HypervisorError Unit :=
  if mmioEnd offset data > s.mmioData.length then (s, .err (.ioError "Invalid offset"))
  else if offset.toNat > mmioEnd offset data then (s, .panic)
  else ({ s with mmioData := store s.mmioData offset.toNat data }, .ok ())

/-- `FsState::mmio_read` in a build with overflow checks. -/
def FsState.mmioReadChecked (s : FsState) (offset : UInt64) (data : List UInt8) :
    List UInt8 × Outcome HypervisorError Unit :=
  if 2 ^ 64 ≤ offset.toNat + data.length then (data, .panic) else s.mmioRead offset data

/-- `FsState::mmio_write` in a build with overflow checks. -/
def FsState.mmioWriteChecked (s : FsState) (offset : UInt64) (data : List UInt8) :
    FsState × Outcome HypervisorError Unit :=
  if 2 ^ 64 ≤ offset.toNat + data.length then (s, .panic) else s.mmioWrite offset data

/-- A call of one of the two methods: the buffer to fill, or the bytes to write. -/
inductive MmioAccess
  | read (offset : UInt64) (data : List UInt8)
  | write (offset : UInt64) (data : List UInt8)
deriving DecidableEq

def MmioAccess.offset : MmioAccess → UInt64
  | .read offset _ => offset
  | .write offset _ => offset

def MmioAccess.data : MmioAccess → List UInt8
  | .read _ data => data
  | .write _ data => data

/-- The end of the range, as a number. -/
def MmioAccess.stop (access : MmioAccess) : ℕ :=
  access.offset.toNat + access.data.length

/-- The state after an access, the caller's buffer and the result. -/
def FsState.mmio (s : FsState) :
    MmioAccess → FsState × List UInt8 × Outcome HypervisorError Unit
  | .read offset data => (s, s.mmioRead offset data)
  | .write offset data =>
      let (s, r) := s.mmioWrite offset data
      (s, data, r)

/-- One access whose range does not pass `2 ^ 64`, as a step of a trace. -/
def MmioStep (s : FsState) (access : MmioAccess) (s' : FsState)
    (answer : List UInt8 × Outcome HypervisorError Unit) : Prop :=
  access.stop < 2 ^ 64 ∧ s.mmio access = (s', answer)

/-! ### What an access does -/

/-- The bytes of the area after an access that succeeds. -/
def MmioAccess.stored (access : MmioAccess) (bytes : List UInt8) : List UInt8 :=
  match access with
  | .read _ _ => bytes
  | .write offset data => store bytes offset.toNat data

/-- The caller's buffer after an access that succeeds. -/
def MmioAccess.filled (access : MmioAccess) (bytes : List UInt8) : List UInt8 :=
  match access with
  | .read offset data => load bytes offset.toNat data.length
  | .write _ data => data

/-- What an access does: it is refused and changes nothing when its range ends behind the area,
and goes through otherwise. -/
theorem FsState.mmio_cases {s s' : FsState} {access : MmioAccess}
    {answer : List UInt8 × Outcome HypervisorError Unit} (h : MmioStep s access s' answer) :
    (s.mmioData.length < access.stop ∧ s' = s ∧
        answer = (access.data, .err (.ioError "Invalid offset"))) ∨
      (access.stop ≤ s.mmioData.length ∧ s' = { s with mmioData := access.stored s.mmioData } ∧
        answer = (access.filled s.mmioData, .ok ())) := by
  obtain ⟨hfits, hstep⟩ := h
  have hend : mmioEnd access.offset access.data = access.stop := Nat.mod_eq_of_lt hfits
  have hstart : ¬access.offset.toNat > access.stop := Nat.not_lt.mpr (Nat.le_add_right _ _)
  by_cases hin : access.stop > s.mmioData.length
  · refine .inl ⟨hin, ?_⟩
    cases access with
    | read offset data =>
        simp only [MmioAccess.offset, MmioAccess.data] at hend
        rw [mmio, mmioRead, hend, if_pos hin] at hstep
        exact ⟨(Prod.mk.inj hstep).1.symm, (Prod.mk.inj hstep).2.symm⟩
    | write offset data =>
        simp only [MmioAccess.offset, MmioAccess.data] at hend
        rw [mmio, mmioWrite, hend, if_pos hin] at hstep
        exact ⟨(Prod.mk.inj hstep).1.symm, (Prod.mk.inj hstep).2.symm⟩
  · refine .inr ⟨Nat.le_of_not_lt hin, ?_⟩
    cases access with
    | read offset data =>
        simp only [MmioAccess.offset, MmioAccess.data] at hend hstart
        rw [mmio, mmioRead, hend, if_neg hin, if_neg hstart] at hstep
        exact ⟨(Prod.mk.inj hstep).1.symm, (Prod.mk.inj hstep).2.symm⟩
    | write offset data =>
        simp only [MmioAccess.offset, MmioAccess.data] at hend hstart
        rw [mmio, mmioWrite, hend, if_neg hin, if_neg hstart] at hstep
        exact ⟨(Prod.mk.inj hstep).1.symm, (Prod.mk.inj hstep).2.symm⟩

/-- An access that succeeds keeps the length of the area. -/
theorem MmioAccess.length_stored {access : MmioAccess} {bytes : List UInt8}
    (h : access.stop ≤ bytes.length) : (access.stored bytes).length = bytes.length := by
  cases access with
  | read offset data => rfl
  | write offset data => exact length_store_of_le h

/-! ### Sequences of accesses -/

/-- The block a call has stored: that of a write that succeeded. -/
def storedBlock :
    FsState × MmioAccess × List UInt8 × Outcome HypervisorError Unit → Option (ℕ × List UInt8)
  | (_, .write offset data, _, .ok ()) => some (offset.toNat, data)
  | _ => none

/-- The byte at an address of the area after a sequence of calls on a cleared area: that of the
latest write that succeeded and covers the address, or zero. -/
def latestByte (calls : List (FsState × MmioAccess × List UInt8 × Outcome HypervisorError Unit))
    (a : ℕ) : UInt8 :=
  (lastWrite (calls.filterMap storedBlock) a).getD 0

/-- After the calls made so far, the area has `n` bytes and holds the latest write to each. -/
def MmioInv (n : ℕ)
    (past : List (FsState × MmioAccess × List UInt8 × Outcome HypervisorError Unit))
    (s : FsState) : Prop :=
  s.mmioData.length = n ∧ ∀ a, s.mmioData.getD a 0 = latestByte past a

theorem latestByte_eq_patches
    (calls : List (FsState × MmioAccess × List UInt8 × Outcome HypervisorError Unit)) (a : ℕ) :
    latestByte calls a = patches (fun _ => 0) (calls.filterMap storedBlock) a := by
  rw [latestByte, patches_apply]

/-- A call that stores nothing leaves the latest bytes as they are. -/
theorem latestByte_concat_of_none
    {past : List (FsState × MmioAccess × List UInt8 × Outcome HypervisorError Unit)}
    {x : FsState × MmioAccess × List UInt8 × Outcome HypervisorError Unit}
    (h : storedBlock x = none) (a : ℕ) : latestByte (past ++ [x]) a = latestByte past a := by
  rw [latestByte, latestByte, List.filterMap_append, List.filterMap_cons_none h,
    List.filterMap_nil, List.append_nil]

/-- Every access keeps the invariant. -/
theorem MmioInv.step {n : ℕ}
    {past : List (FsState × MmioAccess × List UInt8 × Outcome HypervisorError Unit)}
    {s s' : FsState} {access : MmioAccess} {answer : List UInt8 × Outcome HypervisorError Unit}
    (hinv : MmioInv n past s) (hstep : MmioStep s access s' answer) :
    MmioInv n (past ++ [(s, access, answer)]) s' := by
  obtain ⟨hlen, hbytes⟩ := hinv
  rcases FsState.mmio_cases hstep with ⟨-, rfl, rfl⟩ | ⟨hin, rfl, rfl⟩
  · refine ⟨hlen, fun a => ?_⟩
    rw [latestByte_concat_of_none (by cases access <;> rfl), hbytes]
  · refine ⟨(MmioAccess.length_stored hin).trans hlen, fun a => ?_⟩
    cases access with
    | read offset data =>
        rw [latestByte_concat_of_none rfl]
        exact hbytes a
    | write offset data =>
        -- the write is the latest one, and patches what was there
        have hblock : storedBlock (s, .write offset data, data, .ok ()) =
          some (offset.toNat, data) := rfl
        simp only [MmioAccess.stored, MmioAccess.filled]
        rw [getD_store, latestByte_eq_patches, List.filterMap_append,
          List.filterMap_cons_some hblock, List.filterMap_nil, patches_append, patches_cons,
          patches_nil]
        congr 1
        funext i
        rw [hbytes i, latestByte_eq_patches]

/-- **The MMIO area is an array of bytes, and the last writer wins**: in every sequence of
accesses to an area of `size` bytes, whatever ranges they have, an access succeeds exactly when
its range ends inside the area, and changes neither the area nor the caller's buffer otherwise.
A read that succeeds returns for each byte what the latest write that succeeded and covers it has
stored, or zero. The length of the area never changes. -/
theorem mmio_last_writer {F S : Type} {host : AttachHost F S} {root : String} {base size : UInt64}
    {s s' : FsState}
    {calls : List (FsState × MmioAccess × List UInt8 × Outcome HypervisorError Unit)}
    (hnew : FsState.new host root (some (base, size)) = .ok s)
    (htrace : Trace MmioStep s calls s') :
    s'.mmioData.length = size.toNat ∧
      ∀ before t access buffer result after,
        calls = before ++ (t, access, buffer, result) :: after →
        t.mmioData.length = size.toNat ∧
          (result = .ok () ↔ access.stop ≤ size.toNat) ∧
          (result ≠ .ok () → result = .err (.ioError "Invalid offset") ∧ buffer = access.data ∧
            ∀ t', MmioStep t access t' (buffer, result) → t' = t) ∧
          (∀ offset data, access = .read offset data → result = .ok () →
            buffer = slice (latestByte before) offset.toNat data.length) := by
  obtain ⟨-, owner, -, rfl⟩ := (FsState.new_ok_iff host).mp hnew
  obtain ⟨hlast, hcalls⟩ := htrace.history (I := MmioInv size.toNat)
    (fun _ _ _ _ _ hinv hstep => hinv.step hstep)
    ⟨List.length_replicate, fun a => by
      simp only [List.getD_eq_getElem?_getD, Option.map_some, Option.getD_some,
        List.getElem?_replicate]
      split <;> rfl⟩
  refine ⟨hlast.1, ?_⟩
  rintro before t access buffer result after rfl
  obtain ⟨hlen, hbytes⟩ := hcalls _ _ _ rfl
  obtain ⟨u, -, hu, -⟩ := htrace.split
  simp only at hlen hbytes hu
  rcases FsState.mmio_cases hu with ⟨hout, rfl, hanswer⟩ | ⟨hin, -, hanswer⟩
  · obtain ⟨rfl, rfl⟩ := Prod.mk.inj hanswer
    simp only [reduceCtorEq, false_iff, false_implies, implies_true, and_true]
    refine ⟨hlen, by omega, fun _ => ⟨trivial, trivial, ?_⟩⟩
    intro t' ht'
    exact (Prod.mk.inj (ht'.2.symm.trans hu.2)).1
  · obtain ⟨rfl, rfl⟩ := Prod.mk.inj hanswer
    refine ⟨hlen, ⟨fun _ => by omega, fun _ => rfl⟩, fun h => absurd rfl h, ?_⟩
    rintro offset data rfl -
    have hload : load t.mmioData offset.toNat data.length =
      slice (fun i => t.mmioData.getD i 0) offset.toNat data.length := load_eq_slice hin
    rw [MmioAccess.filled, hload]
    exact slice_congr fun i _ => hbytes _

/-- The state of a directory on the plain host, with an area of four bytes. -/
def FsState.fourBytes (mmioData : List UInt8) : FsState where
  root := "/shared"
  acls := [(Path.components "/shared", { owner := 0, group := 0, entries := [] })]
  mmioRegion := some (0, 4)
  mmioData := mmioData

/-- Two writes that overlap, and one that does not fit. -/
def overlappingWrites :
    List (FsState × MmioAccess × List UInt8 × Outcome HypervisorError Unit) :=
  [(.fourBytes [0, 0, 0, 0], .write 1 [1, 2], [1, 2], .ok ()),
    (.fourBytes [0, 1, 2, 0], .write 2 [9], [9], .ok ()),
    (.fourBytes [0, 1, 9, 0], .write 3 [5, 5], [5, 5], .err (.ioError "Invalid offset"))]

/-- A read of the whole area after these writes. -/
theorem mmio_last_writer_overlap :
    FsState.new AttachHost.plain "/shared" (some (0, 4)) = .ok (.fourBytes [0, 0, 0, 0]) ∧
      Trace MmioStep (.fourBytes [0, 0, 0, 0])
        (overlappingWrites ++
          [(.fourBytes [0, 1, 9, 0], .read 0 [7, 7, 7, 7], [0, 1, 9, 0], .ok ())])
        (.fourBytes [0, 1, 9, 0]) ∧
      slice (latestByte overlappingWrites) 0 4 = [0, 1, 9, 0] := by
  have hnew : FsState.new AttachHost.plain "/shared" (some (0, 4)) =
    .ok (.fourBytes [0, 0, 0, 0]) := rfl
  have htrace : Trace MmioStep (.fourBytes [0, 0, 0, 0])
      (overlappingWrites ++
        [(.fourBytes [0, 1, 9, 0], .read 0 [7, 7, 7, 7], [0, 1, 9, 0], .ok ())])
      (.fourBytes [0, 1, 9, 0]) :=
    .cons ⟨by decide, rfl⟩ (.cons ⟨by decide, rfl⟩ (.cons ⟨by decide, rfl⟩
      (.cons ⟨by decide, rfl⟩ (.nil _))))
  have hread := (mmio_last_writer hnew htrace).2 overlappingWrites _ _ _ _ [] rfl
  exact ⟨hnew, htrace, (hread.2.2.2 0 [7, 7, 7, 7] rfl rfl).symm⟩

/-! ### Accesses past the end -/

/-- **Accesses past the end of the area**: they are refused in every build, and change nothing,
exactly when the end of the range does not pass `2 ^ 64`. Otherwise a build with overflow checks
panics, and in a release build the sum wraps around to a number before the start of the range. -/
theorem mmio_refused_iff {s : FsState} {offset : UInt64} {data : List UInt8}
    (hout : s.mmioData.length < offset.toNat + data.length) :
    ((s.mmioRead offset data = (data, .err (.ioError "Invalid offset")) ∧
          s.mmioWrite offset data = (s, .err (.ioError "Invalid offset"))) ∧
        s.mmioReadChecked offset data = (data, .err (.ioError "Invalid offset")) ∧
        s.mmioWriteChecked offset data = (s, .err (.ioError "Invalid offset"))) ↔
      offset.toNat + data.length < 2 ^ 64 := by
  constructor
  · rintro ⟨-, hread, -⟩
    by_contra hwrap
    rw [FsState.mmioReadChecked, if_pos (Nat.not_lt.mp hwrap)] at hread
    cases (Prod.mk.inj hread).2
  · intro hfits
    have hend : mmioEnd offset data = offset.toNat + data.length := Nat.mod_eq_of_lt hfits
    have hread : s.mmioRead offset data = (data, .err (.ioError "Invalid offset")) := by
      rw [FsState.mmioRead, hend, if_pos hout]
    have hwrite : s.mmioWrite offset data = (s, .err (.ioError "Invalid offset")) := by
      rw [FsState.mmioWrite, hend, if_pos hout]
    refine ⟨⟨hread, hwrite⟩, ?_, ?_⟩
    · rw [FsState.mmioReadChecked, if_neg (Nat.not_le.mpr hfits), hread]
    · rw [FsState.mmioWriteChecked, if_neg (Nat.not_le.mpr hfits), hwrite]

/-- A read at the end of an area of four bytes. -/
theorem mmio_refused_at_end :
    (FsState.fourBytes [0, 0, 0, 0]).mmioRead 4 [7] = ([7], .err (.ioError "Invalid offset")) :=
  ((mmio_refused_iff (by decide)).mpr (by decide)).1.1

/-- At the last offset an access of one byte wraps around to zero, which is not past the end: both
calls panic, with overflow checks and without. -/
theorem mmio_last_offset_panics :
    let s := FsState.fourBytes [0, 0, 0, 0]
    (s.mmioRead 0xffffffffffffffff [7]).2 = .panic ∧
      (s.mmioWrite 0xffffffffffffffff [7]).2 = .panic ∧
      (s.mmioReadChecked 0xffffffffffffffff [7]).2 = .panic ∧
      (s.mmioWriteChecked 0xffffffffffffffff [7]).2 = .panic := by
  decide

end MoVm
