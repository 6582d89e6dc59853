import Mathlib.Data.List.Induction
import MoVm.Lib.Fields
import MoVm.SnapshotJson

/-!
# What the Snapshot Visitors Accept

The `visit_map` of each of the four visitors of `snapshot.rs` is a loop over the entries of a map
with one `Option` for each field. This module says exactly which maps it accepts and what it makes
of them: every required key occurs once and every optional key at most once, and their values can
be decoded; all other keys are skipped. In particular the order of the entries does not matter.

The values of the register fields are byte strings of a fixed length, which are then read as the
struct; `FieldDecoders.withImages` are decoders that do so.

## Main results

* `visitors_grammar`: the four visitors.
-/

open Lib

namespace MoVm

variable {X : Type}

/-! ### Loops over entries -/

/-- **Loops over entries**: a loop that is described by `R` without entries, and by what one more
entry adds to it, is described by `R`. -/
theorem foldlM_ok_iff {ε E F : Type} {visit : F → E → Outcome ε F} {f₀ : F}
    {R : List E → F → Prop} (hnil : ∀ f, f₀ = f ↔ R [] f)
    (hconcat : ∀ map e f, (∃ g, R map g ∧ visit g e = .ok f) ↔ R (map ++ [e]) f)
    (map : List E) (f : F) : map.foldlM visit f₀ = .ok f ↔ R map f := by
  induction map using List.reverseRecOn generalizing f with
  | nil =>
      rw [← hnil]
      exact ⟨fun h => Outcome.ok.inj h, fun h => congrArg _ h⟩
  | append_singleton map e ih =>
      rw [List.foldlM_append, Outcome.bind_ok_iff, ← hconcat]
      refine exists_congr fun g => and_congr (ih g) ?_
      rw [List.foldlM_cons, Outcome.bind_ok_iff]
      refine ⟨fun ⟨_, hg, h⟩ => ?_, fun h => ⟨f, h, rfl⟩⟩
      obtain rfl := Outcome.ok.inj h
      exact hg

/-- A value that a decoder accepts. -/
def Accepts {α : Type} (decode : X → Outcome String α) (v : X) (a : α) : Prop :=
  decode v = .ok a

/-- A field takes a value that its decoder accepts, once. -/
theorem readField_ok_iff {α : Type} {name : String} {slot slot' : Option α}
    {decode : X → Outcome String α} {v : X} :
    readField name slot decode v = .ok slot' ↔
      slot = none ∧ ∃ a, Accepts decode v a ∧ slot' = some a := by
  cases slot with
  | some b => simp only [readField, Option.isSome_some, if_true, reduceCtorEq, false_and]
  | none =>
      show (decode v >>= fun a => pure (some a)) = .ok slot' ↔ _
      rw [Outcome.bind_ok_iff, and_iff_right rfl]
      refine exists_congr fun a => and_congr_right fun _ => ?_
      exact ⟨fun h => (Outcome.ok.inj h).symm, fun h => congrArg _ h.symm⟩

/-- A required field has been read. -/
theorem requireField_ok_iff {α : Type} {name : String} {slot : Option α} {a : α} :
    requireField name slot = .ok a ↔ slot = some a := by
  cases slot with
  | none => simp only [requireField, reduceCtorEq]
  | some b => simp only [requireField, Outcome.ok.injEq, Option.some.injEq]

variable {dec : FieldDecoders X}

/-! ### Memory regions -/

/-- What one entry fills in. -/
theorem MemoryRegionFields.visit_ok_iff {f f' : MemoryRegionFields} {e : String × X} :
    f.visit dec e = .ok f' ↔
      Fill (Accepts dec.u64) "guest_addr" f.guestAddr e f'.guestAddr ∧
      Fill (Accepts dec.usize) "size" f.size e f'.size ∧
      Fill (Accepts dec.vecU8) "data" f.data e f'.data := by
  obtain ⟨a, b, c⟩ := f
  obtain ⟨a', b', c'⟩ := f'
  simp only [MemoryRegionFields.visit, Fill]
  split
  all_goals
    simp only [Outcome.bind_ok_iff, readField_ok_iff, Outcome.pure_eq, Outcome.ok.injEq,
      MemoryRegionFields.mk.injEq]
    grind

/-- What a map leaves in the slots of a `MemoryRegion`. -/
def MemoryRegionFields.Read (dec : FieldDecoders X) (map : List (String × X))
    (f : MemoryRegionFields) : Prop :=
  Filled (Accepts dec.u64) (valuesOf "guest_addr" map) f.guestAddr ∧
    Filled (Accepts dec.usize) (valuesOf "size" map) f.size ∧
    Filled (Accepts dec.vecU8) (valuesOf "data" map) f.data

/-- What all entries fill in. -/
theorem MemoryRegionFields.foldlM_ok_iff (map : List (String × X)) (f : MemoryRegionFields) :
    map.foldlM (MemoryRegionFields.visit dec) ⟨none, none, none⟩ = .ok f ↔ f.Read dec map := by
  refine MoVm.foldlM_ok_iff (fun f => ?_) (fun map e f => ?_) map f
  · obtain ⟨a, b, c⟩ := f
    simp only [MemoryRegionFields.mk.injEq, Read, valuesOf_nil, Filled, eq_comm]
  · simp only [visit_ok_iff, Read, filled_concat]
    constructor
    · rintro ⟨g, ⟨ha, hb, hc⟩, ha', hb', hc'⟩
      exact ⟨⟨_, ha, ha'⟩, ⟨_, hb, hb'⟩, ⟨_, hc, hc'⟩⟩
    · rintro ⟨⟨a, ha, ha'⟩, ⟨b, hb, hb'⟩, ⟨c, hc, hc'⟩⟩
      exact ⟨⟨a, b, c⟩, ⟨ha, hb, hc⟩, ha', hb', hc'⟩

/-- The grammar of a `MemoryRegion`: all three fields, once each. -/
def MemoryRegionGrammar (dec : FieldDecoders X) (map : List (String × X)) (r : MemoryRegion) :
    Prop :=
  OneValue "guest_addr" (Accepts dec.u64) map r.guestAddr ∧
    OneValue "size" (Accepts dec.usize) map r.size ∧
    OneValue "data" (Accepts dec.vecU8) map r.data

/-- The visitor of `MemoryRegion` accepts its grammar. -/
theorem memoryRegionVisitor_ok_iff (map : List (String × X)) (r : MemoryRegion) :
    (memoryRegionVisitor dec).visitMap map = .ok r ↔ MemoryRegionGrammar dec map r := by
  simp only [memoryRegionVisitor, Visitor.ofMap, MemoryRegionGrammar, OneValue,
    ← filled_some_iff, Outcome.bind_ok_iff, requireField_ok_iff,
    MemoryRegionFields.foldlM_ok_iff, Outcome.pure_eq, Outcome.ok.injEq]
  constructor
  · rintro ⟨f, ⟨ha, hb, hc⟩, a, hfa, b, hfb, c, hfc, rfl⟩
    exact ⟨hfa ▸ ha, hfb ▸ hb, hfc ▸ hc⟩
  · rintro ⟨ha, hb, hc⟩
    exact ⟨⟨_, _, _⟩, ⟨ha, hb, hc⟩, _, rfl, _, rfl, _, rfl, rfl⟩

/-! ### Device states -/

/-- What one entry fills in. -/
theorem DeviceStateFields.visit_ok_iff {f f' : DeviceStateFields} {e : String × X} :
    f.visit dec e = .ok f' ↔
      Fill (Accepts dec.string) "device_type" f.deviceType e f'.deviceType ∧
      Fill (Accepts dec.borrowedBytes) "state" f.state e f'.state := by
  obtain ⟨a, b⟩ := f
  obtain ⟨a', b'⟩ := f'
  simp only [DeviceStateFields.visit, Fill]
  split
  all_goals
    simp only [Outcome.bind_ok_iff, readField_ok_iff, Outcome.pure_eq, Outcome.ok.injEq,
      DeviceStateFields.mk.injEq]
    grind

/-- What a map leaves in the slots of a `DeviceState`. -/
def DeviceStateFields.Read (dec : FieldDecoders X) (map : List (String × X))
    (f : DeviceStateFields) : Prop :=
  Filled (Accepts dec.string) (valuesOf "device_type" map) f.deviceType ∧
    Filled (Accepts dec.borrowedBytes) (valuesOf "state" map) f.state

/-- What all entries fill in. -/
theorem DeviceStateFields.foldlM_ok_iff (map : List (String × X)) (f : DeviceStateFields) :
    map.foldlM (DeviceStateFields.visit dec) ⟨none, none⟩ = .ok f ↔ f.Read dec map := by
  refine MoVm.foldlM_ok_iff (fun f => ?_) (fun map e f => ?_) map f
  · obtain ⟨a, b⟩ := f
    simp only [DeviceStateFields.mk.injEq, Read, valuesOf_nil, Filled, eq_comm]
  · simp only [visit_ok_iff, Read, filled_concat]
    constructor
    · rintro ⟨g, ⟨ha, hb⟩, ha', hb'⟩
      exact ⟨⟨_, ha, ha'⟩, ⟨_, hb, hb'⟩⟩
    · rintro ⟨⟨a, ha, ha'⟩, ⟨b, hb, hb'⟩⟩
      exact ⟨⟨a, b⟩, ⟨ha, hb⟩, ha', hb'⟩

/-- The grammar of a `DeviceState`: both fields, once each. -/
def DeviceStateGrammar (dec : FieldDecoders X) (map : List (String × X)) (s : DeviceState) :
    Prop :=
  OneValue "device_type" (Accepts dec.string) map s.deviceType ∧
    OneValue "state" (Accepts dec.borrowedBytes) map s.state

/-- The visitor of `DeviceState` accepts its grammar. -/
theorem deviceStateVisitor_ok_iff (map : List (String × X)) (s : DeviceState) :
    (deviceStateVisitor dec).visitMap map = .ok s ↔ DeviceStateGrammar dec map s := by
  simp only [deviceStateVisitor, Visitor.ofMap, DeviceStateGrammar, OneValue,
    ← filled_some_iff, Outcome.bind_ok_iff, requireField_ok_iff,
    DeviceStateFields.foldlM_ok_iff, Outcome.pure_eq, Outcome.ok.injEq]
  constructor
  · rintro ⟨f, ⟨ha, hb⟩, a, hfa, b, hfb, rfl⟩
    exact ⟨hfa ▸ ha, hfb ▸ hb⟩
  · rintro ⟨ha, hb⟩
    exact ⟨⟨_, _⟩, ⟨ha, hb⟩, _, rfl, _, rfl, rfl⟩

/-! ### vCPU states -/

/-- The struct that a byte string of this length is read as. -/
def AcceptsImage {α : Type} (byteBuf : X → Outcome String (List UInt8)) (size : ℕ)
    (read : Reader α) (v : X) (a : α) : Prop :=
  ∃ bytes, byteBuf v = .ok bytes ∧ bytes.length = size ∧ (read bytes).1 = a

/-- Decoders that read the registers from byte strings, as `SerdeRegs`, `SerdeSregs` and
`SerdeFpu` do. -/
def FieldDecoders.withImages (dec : FieldDecoders X) (byteBuf : X → Outcome String (List UInt8)) :
    FieldDecoders X :=
  { dec with
    regs := fun v => do intoRegs (← byteBuf v)
    sregs := fun v => do intoSregs (← byteBuf v)
    fpu := fun v => do intoFpu (← byteBuf v) }

/-- The decoders of JSON values are of this form. -/
example : Json.leaves.withImages Json.byteBuf = Json.leaves := rfl

/-- A register struct is accepted as an image of its size. -/
theorem accepts_image_iff {α : Type} {byteBuf : X → Outcome String (List UInt8)} {size : ℕ}
    {read : Reader α} {v : X} {a : α} :
    Accepts (fun v => byteBuf v >>= readImage size read) v a ↔
      AcceptsImage byteBuf size read v a := by
  rw [Accepts, Outcome.bind_ok_iff, AcceptsImage]
  refine exists_congr fun bytes => and_congr_right fun _ => ?_
  rw [readImage]
  split
  · next h => exact ⟨fun h' => ⟨h, Outcome.ok.inj h'⟩, fun h' => congrArg _ h'.2⟩
  · next h => simp only [reduceCtorEq, h, false_and]

/-- What one entry fills in. -/
theorem VcpuStateFields.visit_ok_iff {f f' : VcpuStateFields} {e : String × X} :
    f.visit dec e = .ok f' ↔
      Fill (Accepts dec.u32) "id" f.id e f'.id ∧
      Fill (Accepts dec.regs) "regs" f.regs e f'.regs ∧
      Fill (Accepts dec.sregs) "sregs" f.sregs e f'.sregs ∧
      Fill (Accepts dec.fpu) "fpu" f.fpu e f'.fpu ∧
      Fill (Accepts dec.msrPairs) "msrs" f.msrs e f'.msrs := by
  obtain ⟨a, b, c, d, m⟩ := f
  obtain ⟨a', b', c', d', m'⟩ := f'
  simp only [VcpuStateFields.visit, Fill]
  split
  all_goals
    simp only [Outcome.bind_ok_iff, readField_ok_iff, Outcome.pure_eq, Outcome.ok.injEq,
      VcpuStateFields.mk.injEq]
    grind

/-- What a map leaves in the slots of a `VcpuState`. -/
def VcpuStateFields.Read (dec : FieldDecoders X) (map : List (String × X))
    (f : VcpuStateFields) : Prop :=
  Filled (Accepts dec.u32) (valuesOf "id" map) f.id ∧
    Filled (Accepts dec.regs) (valuesOf "regs" map) f.regs ∧
    Filled (Accepts dec.sregs) (valuesOf "sregs" map) f.sregs ∧
    Filled (Accepts dec.fpu) (valuesOf "fpu" map) f.fpu ∧
    Filled (Accepts dec.msrPairs) (valuesOf "msrs" map) f.msrs

/-- What all entries fill in. -/
theorem VcpuStateFields.foldlM_ok_iff (map : List (String × X)) (f : VcpuStateFields) :
    map.foldlM (VcpuStateFields.visit dec) ⟨none, none, none, none, none⟩ = .ok f ↔
      f.Read dec map := by
  refine MoVm.foldlM_ok_iff (fun f => ?_) (fun map e f => ?_) map f
  · obtain ⟨a, b, c, d, m⟩ := f
    simp only [VcpuStateFields.mk.injEq, Read, valuesOf_nil, Filled, eq_comm]
  · simp only [visit_ok_iff, Read, filled_concat]
    constructor
    · rintro ⟨g, ⟨ha, hb, hc, hd, hm⟩, ha', hb', hc', hd', hm'⟩
      exact ⟨⟨_, ha, ha'⟩, ⟨_, hb, hb'⟩, ⟨_, hc, hc'⟩, ⟨_, hd, hd'⟩, ⟨_, hm, hm'⟩⟩
    · rintro ⟨⟨a, ha, ha'⟩, ⟨b, hb, hb'⟩, ⟨c, hc, hc'⟩, ⟨d, hd, hd'⟩, ⟨m, hm, hm'⟩⟩
      exact ⟨⟨a, b, c, d, m⟩, ⟨ha, hb, hc, hd, hm⟩, ha', hb', hc', hd', hm'⟩

/-- The MSR entry of an index and a value. -/
def msrEntry (pair : UInt32 × UInt64) : KvmMsrEntry :=
  { index := pair.1, reserved := 0, data := pair.2 }

/-- A value that is read as a list of MSRs. -/
def AcceptsMsrs (dec : FieldDecoders X) (v : X) (msrs : List KvmMsrEntry) : Prop :=
  ∃ pairs, Accepts dec.msrPairs v pairs ∧ pairs.map msrEntry = msrs

/-- The grammar of a `VcpuState`: four fields, once each, the registers as byte strings of the
right length, and the MSRs at most once. -/
def VcpuStateGrammar (dec : FieldDecoders X) (byteBuf : X → Outcome String (List UInt8))
    (map : List (String × X)) (s : VcpuState) : Prop :=
  OneValue "id" (Accepts dec.u32) map s.id ∧
    OneValue "regs" (AcceptsImage byteBuf 144 KvmRegs.read) map s.regs ∧
    OneValue "sregs" (AcceptsImage byteBuf 312 KvmSregs.read) map s.sregs ∧
    OneValue "fpu" (AcceptsImage byteBuf 416 KvmFpu.read) map s.fpu ∧
    AtMostOneValue "msrs" (AcceptsMsrs dec) [] map s.msrs

/-- The visitor of `VcpuState` accepts its grammar. -/
theorem vcpuStateVisitor_ok_iff {byteBuf : X → Outcome String (List UInt8)}
    (map : List (String × X)) (s : VcpuState) :
    (vcpuStateVisitor (dec.withImages byteBuf)).visitMap map = .ok s ↔
      VcpuStateGrammar dec byteBuf map s := by
  have hmsrs : AtMostOneValue "msrs" (AcceptsMsrs dec) [] map s.msrs ↔ _ :=
    (exists_filled_iff fun slot : Option (List (UInt32 × UInt64)) =>
      (slot.getD []).map msrEntry).symm
  simp only [vcpuStateVisitor, Visitor.ofMap, VcpuStateGrammar, OneValue, hmsrs,
    ← accepts_image_iff, ← filled_some_iff, Outcome.bind_ok_iff, requireField_ok_iff,
    VcpuStateFields.foldlM_ok_iff, Outcome.pure_eq, Outcome.ok.injEq]
  constructor
  · rintro ⟨f, ⟨ha, hb, hc, hd, hm⟩, a, hfa, b, hfb, c, hfc, d, hfd, rfl⟩
    exact ⟨hfa ▸ ha, hfb ▸ hb, hfc ▸ hc, hfd ▸ hd, f.msrs, hm, rfl⟩
  · rintro ⟨ha, hb, hc, hd, m, hm, hmap⟩
    refine ⟨⟨_, _, _, _, m⟩, ⟨ha, hb, hc, hd, hm⟩, _, rfl, _, rfl, _, rfl, _, rfl, ?_⟩
    exact congrArg (VcpuState.mk s.id s.regs s.sregs s.fpu) hmap

/-! ### Machine states -/

/-- What one entry fills in. -/
theorem VmStateFields.visit_ok_iff {f f' : VmStateFields} {e : String × X} :
    f.visit dec e = .ok f' ↔
      Fill (Accepts dec.memoryRegions) "memory_regions" f.memoryRegions e f'.memoryRegions ∧
      Fill (Accepts dec.deviceStates) "device_states" f.deviceStates e f'.deviceStates ∧
      Fill (Accepts dec.vcpuStates) "vcpu_states" f.vcpuStates e f'.vcpuStates := by
  obtain ⟨a, b, c⟩ := f
  obtain ⟨a', b', c'⟩ := f'
  simp only [VmStateFields.visit, Fill]
  split
  all_goals
    simp only [Outcome.bind_ok_iff, readField_ok_iff, Outcome.pure_eq, Outcome.ok.injEq,
      VmStateFields.mk.injEq]
    grind

/-- What a map leaves in the slots of a `VmState`. -/
def VmStateFields.Read (dec : FieldDecoders X) (map : List (String × X)) (f : VmStateFields) :
    Prop :=
  Filled (Accepts dec.memoryRegions) (valuesOf "memory_regions" map) f.memoryRegions ∧
    Filled (Accepts dec.deviceStates) (valuesOf "device_states" map) f.deviceStates ∧
    Filled (Accepts dec.vcpuStates) (valuesOf "vcpu_states" map) f.vcpuStates

/-- What all entries fill in. -/
theorem VmStateFields.foldlM_ok_iff (map : List (String × X)) (f : VmStateFields) :
    map.foldlM (VmStateFields.visit dec) ⟨none, none, none⟩ = .ok f ↔ f.Read dec map := by
  refine MoVm.foldlM_ok_iff (fun f => ?_) (fun map e f => ?_) map f
  · obtain ⟨a, b, c⟩ := f
    simp only [VmStateFields.mk.injEq, Read, valuesOf_nil, Filled, eq_comm]
  · simp only [visit_ok_iff, Read, filled_concat]
    constructor
    · rintro ⟨g, ⟨ha, hb, hc⟩, ha', hb', hc'⟩
      exact ⟨⟨_, ha, ha'⟩, ⟨_, hb, hb'⟩, ⟨_, hc, hc'⟩⟩
    · rintro ⟨⟨a, ha, ha'⟩, ⟨b, hb, hb'⟩, ⟨c, hc, hc'⟩⟩
      exact ⟨⟨a, b, c⟩, ⟨ha, hb, hc⟩, ha', hb', hc'⟩

/-- The grammar of a `VmState`: the memory regions once, the other fields at most once. -/
def VmStateGrammar (dec : FieldDecoders X) (map : List (String × X)) (s : VmState) : Prop :=
  OneValue "memory_regions" (Accepts dec.memoryRegions) map s.memoryRegions ∧
    AtMostOneValue "device_states" (Accepts dec.deviceStates) [] map s.deviceStates ∧
    AtMostOneValue "vcpu_states" (Accepts dec.vcpuStates) [] map s.vcpuStates

/-- An optional field that is empty when it is not there. -/
theorem exists_filled_getD_iff {α : Type} {k : String} {decode : X → Outcome String (List α)}
    {map : List (String × X)} {as : List α} :
    (∃ slot, Filled (Accepts decode) (valuesOf k map) slot ∧ slot.getD [] = as) ↔
      AtMostOneValue k (Accepts decode) [] map as := by
  rw [exists_filled_iff fun slot : Option (List α) => slot.getD []]
  simp only [Option.getD_some, exists_eq_right, Option.getD_none]

/-- The visitor of `VmState` accepts its grammar. -/
theorem vmStateVisitor_ok_iff (map : List (String × X)) (s : VmState) :
    (vmStateVisitor dec).visitMap map = .ok s ↔ VmStateGrammar dec map s := by
  simp only [vmStateVisitor, Visitor.ofMap, VmStateGrammar, OneValue, ← exists_filled_getD_iff,
    ← filled_some_iff, Outcome.bind_ok_iff, requireField_ok_iff,
    VmStateFields.foldlM_ok_iff, Outcome.pure_eq, Outcome.ok.injEq]
  constructor
  · rintro ⟨f, ⟨ha, hb, hc⟩, a, hfa, rfl⟩
    exact ⟨hfa ▸ ha, ⟨_, hb, rfl⟩, ⟨_, hc, rfl⟩⟩
  · rintro ⟨ha, ⟨b, hb, hb'⟩, ⟨c, hc, hc'⟩⟩
    refine ⟨⟨_, b, c⟩, ⟨ha, hb, hc⟩, _, rfl, ?_⟩
    simp only [hb', hc']

/-! ### The visitors -/

/-- A visitor accepts exactly the maps of a grammar, with the value that the grammar gives them,
whatever the order of the entries and whatever other keys there are. -/
def DecodesExactly {α : Type} (visitor : Visitor X α) (known : List String)
    (grammar : List (String × X) → α → Prop) : Prop :=
  (∀ map a, visitor.visitMap map = .ok a ↔ grammar map a) ∧
    ∀ map map', SameFields known map map' →
      ∀ a, visitor.visitMap map = .ok a ↔ visitor.visitMap map' = .ok a

theorem decodesExactly_of {α : Type} {visitor : Visitor X α} {known : List String}
    {grammar : List (String × X) → α → Prop}
    (h : ∀ map a, visitor.visitMap map = .ok a ↔ grammar map a)
    (hcongr : ∀ map map', SameFields known map map' → ∀ a, grammar map a ↔ grammar map' a) :
    DecodesExactly visitor known grammar :=
  ⟨h, fun map map' hsame a => by rw [h, h, hcongr map map' hsame]⟩

/-- **What the visitors accept**: `visit_map` of each of the four succeeds exactly on the maps in
which every required key occurs once and every optional key at most once, with values that can be
decoded, the registers as byte strings of the right length. Each field is taken from the value of
its key, and is empty for an optional key that is not there; so neither the order of the entries
nor entries of other keys make a difference. -/
theorem visitors_grammar (dec : FieldDecoders X) (byteBuf : X → Outcome String (List UInt8)) :
    DecodesExactly (vmStateVisitor dec) ["memory_regions", "device_states", "vcpu_states"]
        (VmStateGrammar dec) ∧
      DecodesExactly (memoryRegionVisitor dec) ["guest_addr", "size", "data"]
        (MemoryRegionGrammar dec) ∧
      DecodesExactly (deviceStateVisitor dec) ["device_type", "state"] (DeviceStateGrammar dec) ∧
      DecodesExactly (vcpuStateVisitor (dec.withImages byteBuf))
        ["id", "regs", "sregs", "fpu", "msrs"] (VcpuStateGrammar dec byteBuf) := by
  refine ⟨decodesExactly_of vmStateVisitor_ok_iff ?_,
    decodesExactly_of memoryRegionVisitor_ok_iff ?_,
    decodesExactly_of deviceStateVisitor_ok_iff ?_, decodesExactly_of vcpuStateVisitor_ok_iff ?_⟩
  · intro map map' h s
    exact and_congr (oneValue_congr h (by decide)) (and_congr (atMostOneValue_congr h (by decide))
      (atMostOneValue_congr h (by decide)))
  · intro map map' h r
    exact and_congr (oneValue_congr h (by decide)) (and_congr (oneValue_congr h (by decide))
      (oneValue_congr h (by decide)))
  · intro map map' h s
    exact and_congr (oneValue_congr h (by decide)) (oneValue_congr h (by decide))
  · intro map map' h s
    exact and_congr (oneValue_congr h (by decide)) (and_congr (oneValue_congr h (by decide))
      (and_congr (oneValue_congr h (by decide)) (and_congr (oneValue_congr h (by decide))
        (atMostOneValue_congr h (by decide)))))

end MoVm
