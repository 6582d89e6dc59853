import MoVm.SnapshotGrammar

/-!
# Snapshots From Arbitrary Documents

What reading a `VmState` from a JSON document does when the document is not one that was written
from a snapshot, and what becomes of the device states of one that was.

The only thing in the decoders that can panic is the assertion on the length of a register image.
It is reached when everything before it in the document has been read, so the documents that make
it fail are those with a first wrong image behind entries that are in order
(`VmState.FailsAssertion`).

A device state is written with its bytes as an array of numbers, and read with a decoder that only
takes a string. So none is ever read back.

## Main results

* `vmState_fromJson_noPanic_iff`: the documents that are read or rejected without a panic.
* `deviceStates_roundtrip_iff`: a list of device states survives the format only if it is empty.
-/

open Lib

namespace MoVm

/-! ### Panics in loops -/

/-- A loop panics at the first entry that does, behind entries that have been visited. -/
theorem foldlM_panic_iff {ε E F : Type} {visit : F → E → Outcome ε F} {map : List E} {f₀ : F} :
    map.foldlM visit f₀ = .panic ↔ ∃ before e after f, map = before ++ e :: after ∧
      before.foldlM visit f₀ = .ok f ∧ visit f e = .panic := by
  induction map generalizing f₀ with
  | nil =>
      constructor
      · intro h
        cases h
      · rintro ⟨before, e, after, f, hmap, -⟩
        cases before <;> cases hmap
  | cons e map ih =>
      rw [List.foldlM_cons, Outcome.bind_panic_iff]
      constructor
      · rintro (h | ⟨f, hf, h⟩)
        · exact ⟨[], e, map, f₀, rfl, rfl, h⟩
        · obtain ⟨before, e', after, g, rfl, hbefore, he'⟩ := ih.mp h
          refine ⟨e :: before, e', after, g, rfl, ?_, he'⟩
          rw [List.foldlM_cons, hf]
          exact hbefore
      · rintro ⟨_ | ⟨e₁, before⟩, e', after, g, hmap, hbefore, he'⟩
        · obtain ⟨rfl, rfl⟩ := List.cons.inj hmap
          obtain rfl := Outcome.ok.inj hbefore
          exact .inl he'
        · obtain ⟨rfl, rfl⟩ := List.cons.inj hmap
          rw [List.foldlM_cons, Outcome.bind_ok_iff] at hbefore
          obtain ⟨f, hf, hbefore⟩ := hbefore
          exact .inr ⟨f, hf, ih.mpr ⟨before, e', after, g, rfl, hbefore, he'⟩⟩

/-- Decoding a list panics at the first element that does, behind elements that are decoded. -/
theorem mapM_panic_iff {ε X α : Type} {decode : X → Outcome ε α} {vs : List X} :
    vs.mapM decode = .panic ↔ ∃ before v after, vs = before ++ v :: after ∧
      (∀ u ∈ before, ∃ a, decode u = .ok a) ∧ decode v = .panic := by
  induction vs with
  | nil =>
      constructor
      · intro h
        cases h
      · rintro ⟨before, v, after, hvs, -⟩
        cases before <;> cases hvs
  | cons v vs ih =>
      have hpure : ∀ a, (vs.mapM decode >>= fun as => pure (a :: as)) = .panic ↔
          vs.mapM decode = .panic := fun a => by
        simp only [Outcome.bind_panic_iff, Outcome.pure_eq, reduceCtorEq, and_false,
          exists_false, or_false]
      simp only [List.mapM_cons, Outcome.bind_panic_iff (x := decode v), hpure]
      constructor
      · rintro (h | ⟨a, ha, h⟩)
        · exact ⟨[], v, vs, rfl, List.forall_mem_nil _, h⟩
        · obtain ⟨before, w, after, rfl, hbefore, hw⟩ := ih.mp h
          exact ⟨v :: before, w, after, rfl, List.forall_mem_cons.mpr ⟨⟨a, ha⟩, hbefore⟩, hw⟩
      · rintro ⟨_ | ⟨u, before⟩, w, after, hvs, hbefore, hw⟩
        · obtain ⟨rfl, rfl⟩ := List.cons.inj hvs
          exact .inl hw
        · obtain ⟨rfl, rfl⟩ := List.cons.inj hvs
          obtain ⟨⟨a, ha⟩, hbefore⟩ := List.forall_mem_cons.mp hbefore
          exact .inr ⟨a, ha, ih.mpr ⟨before, w, after, rfl, hbefore, hw⟩⟩

/-- A decoder that reads or rejects every value. -/
def NoPanic {X α : Type} (decode : X → Outcome String α) : Prop :=
  ∀ v, decode v ≠ .panic

/-- A list of values is decoded without a panic. -/
theorem NoPanic.mapM {X α : Type} {decode : X → Outcome String α} (h : NoPanic decode)
    (vs : List X) : vs.mapM decode ≠ .panic := by
  rw [Ne, mapM_panic_iff]
  rintro ⟨-, v, -, -, -, hv⟩
  exact h v hv

/-- The entries of a map are visited without a panic. -/
theorem NoPanic.foldlM {E F : Type} {visit : F → E → Outcome String F} (h : ∀ f, NoPanic (visit f))
    (map : List E) (f₀ : F) : map.foldlM visit f₀ ≠ .panic := by
  rw [Ne, foldlM_panic_iff]
  rintro ⟨-, e, -, f, -, -, he⟩
  exact h f e he

/-- Two decoders one after the other. -/
theorem NoPanic.bind {X α β : Type} {decode : X → Outcome String α} {g : α → Outcome String β}
    (h : NoPanic decode) (hg : NoPanic g) : NoPanic fun v => decode v >>= g := by
  intro v hv
  rcases Outcome.bind_panic_iff.mp hv with hv | ⟨a, -, ha⟩
  · exact h v hv
  · exact hg a ha

/-- A field panics when its value does, unless it is refused as a duplicate before. -/
theorem readField_panic_iff {X α : Type} {name : String} {slot : Option α}
    {decode : X → Outcome String α} {v : X} :
    readField name slot decode v = .panic ↔ slot = none ∧ decode v = .panic := by
  cases slot with
  | some a => simp only [readField, Option.isSome_some, if_true, reduceCtorEq, false_and]
  | none =>
      show (decode v >>= fun a => pure (some a)) = .panic ↔ _
      simp only [Outcome.bind_panic_iff, Outcome.pure_eq, reduceCtorEq, and_false, exists_false,
        or_false, true_and]

/-- A missing field is an error. -/
theorem noPanic_requireField {α : Type} (name : String) :
    NoPanic (requireField name : Option α → Outcome String α) := by
  rintro (_ | a) h
  · cases h
  · cases h

/-! ### Values -/

/-- A number of the wrong kind or size is an error. -/
theorem Json.noPanic_unsigned (expected : String) (w : ℕ) : NoPanic (Json.unsigned expected w) := by
  intro j h
  cases j with
  | posInt n =>
      rw [Json.unsigned] at h
      split at h
      · cases h
      · cases h
  | _ => cases h

/-- What is only converted cannot fail. -/
theorem noPanic_pure {α β : Type} (g : α → β) :
    NoPanic fun a => (pure (g a) : Outcome String β) := by
  intro a h
  cases h

/-- Every value is a `u8` or rejected. -/
theorem Json.noPanic_u8 : NoPanic Json.u8 :=
  (noPanic_unsigned "u8" 8).bind (noPanic_pure _)

/-- Every value is a `u32` or rejected. -/
theorem Json.noPanic_u32 : NoPanic Json.u32 :=
  (noPanic_unsigned "u32" 32).bind (noPanic_pure _)

/-- Every value is a `u64` or rejected. -/
theorem Json.noPanic_u64 : NoPanic Json.u64 :=
  (noPanic_unsigned "u64" 64).bind (noPanic_pure _)

/-- Every value is a `usize` or rejected. -/
theorem Json.noPanic_usize : NoPanic Json.usize :=
  (noPanic_unsigned "usize" 64).bind (noPanic_pure _)

/-- Every value is a `String` or rejected. -/
theorem Json.noPanic_string : NoPanic Json.string := by
  intro j h
  cases j <;> cases h

/-- An array panics only in its elements. -/
theorem Json.noPanic_vec {α : Type} {decode : Json → Outcome String α} (hdecode : NoPanic decode) :
    NoPanic (Json.vec decode) := by
  intro j h
  cases j with
  | arr vs => exact hdecode.mapM vs h
  | _ => cases h

/-- Every value is a pair or rejected. -/
theorem Json.noPanic_pair : NoPanic Json.pair := by
  intro j h
  cases j with
  | arr vs =>
      rcases vs with _ | ⟨a, _ | ⟨b, _ | ⟨c, vs⟩⟩⟩
      all_goals
        simp only [Json.pair, Outcome.bind_panic_iff, Json.noPanic_u32 _, Json.noPanic_u64 _,
          Outcome.pure_eq, reduceCtorEq, and_false, exists_false, or_self] at h
  | _ => cases h

/-- Every value is a byte string or rejected, whatever its length. -/
theorem Json.noPanic_byteBuf : NoPanic Json.byteBuf := by
  intro j h
  cases j with
  | arr vs => exact Json.noPanic_u8.mapM vs h
  | _ => cases h

/-- Every value is a borrowed byte string or rejected. -/
theorem Json.noPanic_borrowedBytes : NoPanic Json.borrowedBytes := by
  intro j h
  cases j with
  | str s =>
      rw [Json.borrowedBytes] at h
      split at h
      · cases h
      · cases h
  | _ => cases h

/-- A struct that is read from a map panics only there. -/
theorem Json.deserializeStruct_panic_iff {α : Type} {expecting : String}
    {visitMap : List (String × Json) → Outcome String α} {j : Json} :
    Json.deserializeStruct (.ofMap expecting visitMap) j = .panic ↔
      ∃ map, j = .obj map ∧ visitMap map = .panic := by
  cases j with
  | obj map =>
      simp only [Json.deserializeStruct, Visitor.ofMap, Json.obj.injEq, exists_eq_left']
  | _ =>
      simp only [Json.deserializeStruct, Visitor.ofMap, Json.invalidType, reduceCtorEq, false_and,
        exists_false]

/-! ### Structs without registers -/

/-- Every document is a memory region or rejected. -/
theorem MemoryRegion.noPanic_fromJson : NoPanic MemoryRegion.fromJson := by
  intro j h
  obtain ⟨map, -, hmap⟩ := Json.deserializeStruct_panic_iff.mp h
  have hvisit : ∀ f, NoPanic (MemoryRegionFields.visit Json.leaves f) := by
    intro f e he
    rw [MemoryRegionFields.visit] at he
    split at he
    all_goals
      simp only [Outcome.bind_panic_iff, readField_panic_iff, Json.leaves, Json.noPanic_u64 e.2,
        Json.noPanic_usize e.2, Json.noPanic_vec Json.noPanic_u8 e.2, Outcome.pure_eq, reduceCtorEq,
        and_false, exists_false, or_self] at he
  simp only [Outcome.bind_panic_iff, NoPanic.foldlM hvisit map, noPanic_requireField _ _,
    Outcome.pure_eq, reduceCtorEq, and_false, exists_false, or_self] at hmap

/-- Every document is a device state or rejected. -/
theorem DeviceState.noPanic_fromJson : NoPanic DeviceState.fromJson := by
  intro j h
  obtain ⟨map, -, hmap⟩ := Json.deserializeStruct_panic_iff.mp h
  have hvisit : ∀ f, NoPanic (DeviceStateFields.visit Json.leaves f) := by
    intro f e he
    rw [DeviceStateFields.visit] at he
    split at he
    all_goals
      simp only [Outcome.bind_panic_iff, readField_panic_iff, Json.leaves, Json.noPanic_string e.2,
        Json.noPanic_borrowedBytes e.2, Outcome.pure_eq, reduceCtorEq, and_false, exists_false,
        or_self] at he
  simp only [Outcome.bind_panic_iff, NoPanic.foldlM hvisit map, noPanic_requireField _ _,
    Outcome.pure_eq, reduceCtorEq, and_false, exists_false, or_self] at hmap

/-! ### vCPU states -/

/-- A value that is read as a byte string, but one of another length. -/
def Json.WrongLength (size : ℕ) (j : Json) : Prop :=
  ∃ bytes, j.byteBuf = .ok bytes ∧ bytes.length ≠ size

/-- The assertion of `into_regs`, `into_sregs` and `into_fpu` fails on those. -/
theorem Json.image_panic_iff {α : Type} {size : ℕ} {read : Reader α} {j : Json} :
    (j.byteBuf >>= readImage size read) = .panic ↔ j.WrongLength size := by
  rw [Outcome.bind_panic_iff, or_iff_right (Json.noPanic_byteBuf j), Json.WrongLength]
  refine exists_congr fun bytes => and_congr_right fun _ => ?_
  rw [readImage]
  split
  · next h => simp only [reduceCtorEq, h, ne_eq, not_true_eq_false]
  · next h => simp only [h, ne_eq, not_false_eq_true]

/-- The fields of a vCPU state that are register images, with the size of the struct. -/
def registerImages : List (String × ℕ) :=
  [("regs", 144), ("sregs", 312), ("fpu", 416)]

/-- An entry with a register image of the wrong length. -/
def WrongImage (e : String × Json) : Prop :=
  ∃ size, (e.1, size) ∈ registerImages ∧ e.2.WrongLength size

/-- An entry panics when it is a wrong image, and the first value of its key. -/
theorem VcpuStateFields.visit_panic_iff {before : List (String × Json)} {f : VcpuStateFields}
    (hf : f.Read Json.leaves before) (e : String × Json) :
    f.visit Json.leaves e = .panic ↔ WrongImage e ∧ valuesOf e.1 before = [] := by
  obtain ⟨hid, hregs, hsregs, hfpu, hmsrs⟩ := hf
  obtain ⟨key, v⟩ := e
  have hbytes : ∀ {α : Type} {size : ℕ} {read : Reader α},
      (v.byteBuf >>= readImage size read) = .panic ↔ v.WrongLength size := Json.image_panic_iff
  rw [VcpuStateFields.visit]
  split
  all_goals
    simp only [Outcome.bind_panic_iff, readField_panic_iff, Json.leaves, Json.noPanic_u32 v,
      Json.noPanic_vec Json.noPanic_pair v, intoRegs, intoSregs, intoFpu, hbytes,
      hregs.eq_none_iff, hsregs.eq_none_iff, hfpu.eq_none_iff, Outcome.pure_eq, reduceCtorEq,
      and_false, exists_false, or_false, or_self, WrongImage, registerImages, List.mem_cons]
    grind

/-- A vCPU state whose first wrong image is reached: the entries before it are in order, and
none of them has its key. -/
def VcpuState.FailsAssertion (j : Json) : Prop :=
  ∃ before e after, j = .obj (before ++ e :: after) ∧
    (∃ f : VcpuStateFields, f.Read Json.leaves before) ∧ WrongImage e ∧ valuesOf e.1 before = []

/-- **When reading a vCPU state panics.** -/
theorem VcpuState.fromJson_panic_iff (j : Json) :
    VcpuState.fromJson j = .panic ↔ VcpuState.FailsAssertion j := by
  rw [VcpuState.fromJson, vcpuStateVisitor, Json.deserializeStruct_panic_iff]
  simp only [Outcome.bind_panic_iff, noPanic_requireField _ _, Outcome.pure_eq, reduceCtorEq,
    and_false, exists_false, or_false, foldlM_panic_iff, VcpuStateFields.foldlM_ok_iff]
  constructor
  · rintro ⟨map, rfl, before, e, after, f, rfl, hf, he⟩
    exact ⟨before, e, after, rfl, ⟨f, hf⟩, (VcpuStateFields.visit_panic_iff hf e).mp he⟩
  · rintro ⟨before, e, after, rfl, ⟨f, hf⟩, he⟩
    exact ⟨_, rfl, before, e, after, f, rfl, hf, (VcpuStateFields.visit_panic_iff hf e).mpr he⟩

/-- A vCPU state that is in order. -/
theorem VcpuState.fromJson_ok_iff {j : Json} {a : VcpuState} :
    VcpuState.fromJson j = .ok a ↔
      ∃ map, j = .obj map ∧ VcpuStateGrammar Json.leaves Json.byteBuf map a := by
  cases j with
  | obj map =>
      simp only [Json.obj.injEq, exists_eq_left']
      exact @vcpuStateVisitor_ok_iff Json Json.leaves Json.byteBuf map a
  | _ =>
      simp only [VcpuState.fromJson, Json.deserializeStruct, vcpuStateVisitor, Visitor.ofMap,
        Json.invalidType, reduceCtorEq, false_and, exists_false]

/-! ### Machine states -/

/-- A list of vCPU states with such a one, behind states that are in order. -/
def VcpuState.ListFailsAssertion (j : Json) : Prop :=
  ∃ before s after, j = .arr (before ++ s :: after) ∧
    (∀ t ∈ before, ∃ map a, t = .obj map ∧ VcpuStateGrammar Json.leaves Json.byteBuf map a) ∧
    VcpuState.FailsAssertion s

/-- When reading a list of them panics. -/
theorem VcpuState.vec_fromJson_panic_iff (j : Json) :
    Json.vec VcpuState.fromJson j = .panic ↔ VcpuState.ListFailsAssertion j := by
  cases j with
  | arr vs =>
      have hgrammar : ∀ t, (∃ a, VcpuState.fromJson t = .ok a) ↔
          ∃ map a, t = .obj map ∧ VcpuStateGrammar Json.leaves Json.byteBuf map a := by
        intro t
        simp only [VcpuState.fromJson_ok_iff]
        exact exists_comm
      simp only [Json.vec, mapM_panic_iff, VcpuState.fromJson_panic_iff, hgrammar,
        VcpuState.ListFailsAssertion, Json.arr.injEq]
  | _ =>
      simp only [Json.vec, Json.invalidType, VcpuState.ListFailsAssertion, reduceCtorEq, false_and,
        exists_false]

/-- Of the fields of a machine state, only the list of vCPU states can panic. -/
theorem VmStateFields.visit_panic_iff {before : List (String × Json)} {f : VmStateFields}
    (hf : f.Read Json.decoders before) (e : String × Json) :
    f.visit Json.decoders e = .panic ↔ e.1 = "vcpu_states" ∧
      VcpuState.ListFailsAssertion e.2 ∧ valuesOf "vcpu_states" before = [] := by
  obtain ⟨hregions, hdevices, hvcpus⟩ := hf
  obtain ⟨key, v⟩ := e
  rw [VmStateFields.visit]
  split
  all_goals
    simp only [Outcome.bind_panic_iff, readField_panic_iff, Json.decoders,
      Json.noPanic_vec MemoryRegion.noPanic_fromJson v,
      Json.noPanic_vec DeviceState.noPanic_fromJson v, VcpuState.vec_fromJson_panic_iff,
      hvcpus.eq_none_iff, Outcome.pure_eq, reduceCtorEq, and_false, exists_false, or_false,
      or_self]
    grind

/-- A document on which an assertion fails: the fields before the vCPU states are in order, and
so is what comes before the first wrong image in them. -/
def VmState.FailsAssertion (j : Json) : Prop :=
  ∃ before v after, j = .obj (before ++ ("vcpu_states", v) :: after) ∧
    (∃ f : VmStateFields, f.Read Json.decoders before) ∧ valuesOf "vcpu_states" before = [] ∧
    VcpuState.ListFailsAssertion v

/-- **No device state is read back**: its bytes are written as an array of numbers, and an array
is not a borrowed byte string. -/
theorem DeviceState.fromJson_serialize (d : DeviceState) :
    DeviceState.fromJson d.serialize.toJson =
      .err "invalid type: sequence, expected a borrowed byte array" := by
  simp only [DeviceState.serialize, SerdeValue.toJson, SerdeValue.toJsonFields,
    SerdeValue.toJsonField]
  rfl

/-- Device states are read back only if there are none. -/
theorem Json.vec_deviceStates_ok_iff (devices : List DeviceState) {devices' : List DeviceState} :
    Json.vec DeviceState.fromJson
        (SerdeValue.seq (devices.map DeviceState.serialize)).toJson = .ok devices' ↔
      devices = [] ∧ devices' = [] := by
  cases devices with
  | nil =>
      rw [Json.vec_deviceStates_nil]
      simp only [Outcome.ok.injEq, true_and, eq_comm]
  | cons d devices =>
      rw [SerdeValue.toJson, SerdeValue.toJsonAll_map, List.map_cons, Json.vec, List.mapM_cons,
        DeviceState.fromJson_serialize, Outcome.err_bind]
      simp only [reduceCtorEq, false_and]

/-- A snapshot is read back only if its device states are. -/
theorem VmState.deviceStates_of_fromJson {regions : List MemoryRegion} {states : List VcpuState}
    {devices : List DeviceState} {s : VmState}
    (h : VmState.fromJson (VmState.serialize ⟨regions, states, devices⟩).toJson = .ok s) :
    Json.vec DeviceState.fromJson (SerdeValue.seq (devices.map DeviceState.serialize)).toJson =
      .ok s.deviceStates := by
  rw [VmState.serialize, SerdeValue.toJson] at h
  simp only [SerdeValue.toJsonFields, SerdeValue.toJsonField] at h
  obtain ⟨-, ⟨hnone, -⟩ | ⟨v, hv, hdevices⟩, -⟩ := (vmStateVisitor_ok_iff _ s).mp h
  · cases hnone
  · obtain rfl := (List.cons.inj hv).1
    exact hdevices

/-- **When device states survive the JSON format**: a list of them is read back, one by one or
as part of a snapshot, only if it is empty. -/
theorem deviceStates_roundtrip_iff (regions : List MemoryRegion) (states : List VcpuState)
    (devices : List DeviceState) :
    ((∀ d ∈ devices, DeviceState.fromJson d.serialize.toJson = .ok d) ↔ devices = []) ∧
      ((∃ s, VmState.fromJson (VmState.serialize ⟨regions, states, devices⟩).toJson = .ok s ∧
        s.deviceStates = devices) ↔ devices = []) := by
  refine ⟨⟨fun h => ?_, ?_⟩, ⟨?_, ?_⟩⟩
  · refine List.eq_nil_iff_forall_not_mem.mpr fun d hd => ?_
    have hread := h d hd
    rw [DeviceState.fromJson_serialize] at hread
    cases hread
  · rintro rfl
    exact List.forall_mem_nil _
  · rintro ⟨s, hs, -⟩
    exact ((Json.vec_deviceStates_ok_iff devices).mp (VmState.deviceStates_of_fromJson hs)).1
  · rintro rfl
    exact ⟨_, VmState.fromJson_serialize regions states Json.vec_deviceStates_nil, rfl⟩

/-- A console without any state is not read back. -/
theorem console_state_lost :
    DeviceState.fromJson (DeviceState.serialize ⟨"console", []⟩).toJson ≠ .ok ⟨"console", []⟩ := by
  rw [DeviceState.fromJson_serialize]
  simp only [ne_eq, reduceCtorEq, not_false_eq_true]

end MoVm
