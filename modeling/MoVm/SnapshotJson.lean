import MoVm.Lib.Reader
import MoVm.SnapshotFormat

/-!
# Snapshots as JSON

`serde_json` as the second format of `VmState`: a value of the serde data model becomes a
JSON document, and a document is read back through the visitors of `snapshot.rs`, which
it drives with a map of fields where bincode drives them with a sequence. A document stands for
the text that `to_string` writes and `from_str` reads; the steps between the two are left out.

The register structs travel as the bytes they have in memory. `SerdeRegs`, `SerdeSregs` and
`SerdeFpu` read them back after an assertion on their number.

## Main results

* `KvmRegs.reads`, `KvmSregs.reads`, `KvmFpu.reads`: the bytes of a register struct are read
  back as the struct.
* `vmState_json_roundtrip`: a `VmState` without device states is read back from its JSON,
  with the reserved fields of its MSR entries cleared.
-/

open Lib

namespace MoVm

/-! ### Documents -/

/-- A JSON document, as `serde_json` tells values apart. -/
inductive Json
  | null
  | bool (b : Bool)
  | posInt (n : UInt64)
  | negInt (n : Int64)
  | float (text : String)
  | str (s : String)
  | arr (vs : List Json)
  | obj (fields : List (String × Json))

mutual

/-- The document that `serde_json::to_string` writes: byte strings, sequences and tuples are arrays,
structs are objects, and the name of a newtype struct is dropped. -/
def SerdeValue.toJson : SerdeValue → Json
  | .u8 n => .posInt n.toUInt64
  | .u32 n => .posInt n.toUInt64
  | .u64 n => .posInt n
  | .str s => .str s
  | .bytes bs => .arr (bs.map fun b => .posInt b.toUInt64)
  | .seq vs => .arr (SerdeValue.toJsonAll vs)
  | .tuple vs => .arr (SerdeValue.toJsonAll vs)
  | .newtypeStruct _ v => v.toJson
  | .struct _ fields => .obj (SerdeValue.toJsonFields fields)

/-- The elements of an array. -/
def SerdeValue.toJsonAll : List SerdeValue → List Json
  | [] => []
  | v :: vs => v.toJson :: SerdeValue.toJsonAll vs

/-- The fields of an object, in the order in which they are written. -/
def SerdeValue.toJsonFields : List (String × SerdeValue) → List (String × Json)
  | [] => []
  | f :: fields => SerdeValue.toJsonField f :: SerdeValue.toJsonFields fields

/-- One field with its name. -/
def SerdeValue.toJsonField : String × SerdeValue → String × Json
  | (name, v) => (name, v.toJson)

end

/-- A sequence is written element by element. -/
theorem SerdeValue.toJsonAll_map {α : Type} (f : α → SerdeValue) (l : List α) :
    SerdeValue.toJsonAll (l.map f) = l.map fun a => (f a).toJson := by
  induction l with
  | nil => rw [List.map_nil, SerdeValue.toJsonAll, List.map_nil]
  | cons a l ih => rw [List.map_cons, SerdeValue.toJsonAll, ih, List.map_cons]

/-! ### Decoders of values -/

/-- How an error calls a value that was not expected. -/
def Json.unexpected : Json → String
  | .null => "null"
  | .bool b => "boolean `" ++ toString b ++ "`"
  | .posInt n => "integer `" ++ toString n ++ "`"
  | .negInt n => "integer `" ++ toString n ++ "`"
  | .float text => "floating point `" ++ text ++ "`"
  | .str s => "string " ++ s.quote
  | .arr _ => "sequence"
  | .obj _ => "map"

/-- The error for a value of another kind. -/
def Json.invalidType {α : Type} (expected : String) (j : Json) : Outcome String α :=
  .err ("invalid type: " ++ j.unexpected ++ ", expected " ++ expected)

/-- The error for a number that is out of range. -/
def Json.invalidValue {α : Type} (expected : String) (j : Json) : Outcome String α :=
  .err ("invalid value: " ++ j.unexpected ++ ", expected " ++ expected)

/-- An unsigned integer of `w` bits. -/
def Json.unsigned (expected : String) (w : ℕ) : Json → Outcome String ℕ
  | .posInt n => if n.toNat < 2 ^ w then .ok n.toNat else (Json.posInt n).invalidValue expected
  | .negInt n => (Json.negInt n).invalidValue expected
  | j => j.invalidType expected

/-- A `u8`. -/
def Json.u8 (j : Json) : Outcome String UInt8 := do return UInt8.ofNat (← j.unsigned "u8" 8)

/-- A `u32`. -/
def Json.u32 (j : Json) : Outcome String UInt32 := do return UInt32.ofNat (← j.unsigned "u32" 32)

/-- A `u64`. -/
def Json.u64 (j : Json) : Outcome String UInt64 := do return UInt64.ofNat (← j.unsigned "u64" 64)

/-- A `usize` has 64 bits here, and is asked for under its own name. -/
def Json.usize (j : Json) : Outcome String UInt64 := do
  return UInt64.ofNat (← j.unsigned "usize" 64)

/-- A `String`. -/
def Json.string : Json → Outcome String String
  | .str s => .ok s
  | j => j.invalidType "a string"

/-- A `Vec` of decoded elements. -/
def Json.vec {α : Type} (decode : Json → Outcome String α) : Json → Outcome String (List α)
  | .arr vs => vs.mapM decode
  | j => j.invalidType "a sequence"

/-- A pair `(u32, u64)`. `from_str` finds a third element behind the pair. -/
def Json.pair : Json → Outcome String (UInt32 × UInt64)
  | .arr [] => .err "invalid length 0, expected a tuple of size 2"
  | .arr [a] => do
      let _ ← a.u32
      .err "invalid length 1, expected a tuple of size 2"
  | .arr [a, b] => do return (← a.u32, ← b.u64)
  | .arr (a :: b :: _) => do
      let _ ← a.u32
      let _ ← b.u64
      .err "trailing characters"
  | j => j.invalidType "a tuple of size 2"

/-- An owned byte string, as `serde_bytes` reads a `Vec<u8>`. -/
def Json.byteBuf : Json → Outcome String (List UInt8)
  | .arr vs => vs.mapM Json.u8
  | .str s => .ok (utf8Bytes s)
  | j => j.invalidType "byte array"

/-- A borrowed byte string, as `serde_bytes` reads a `&Bytes`: it can only be a string of the
document itself, so one that is written without escapes. -/
def Json.borrowedBytes : Json → Outcome String (List UInt8)
  | .str s =>
      if s.toList.any fun c => c = '"' || c = '\\' || c.toNat < 0x20 then
        .err "invalid type: byte array, expected a borrowed byte array"
      else .ok (utf8Bytes s)
  | j => j.invalidType "a borrowed byte array"

/-- `deserialize_struct`: an object drives the visitor through `visit_map`, an array through
`visit_seq`. -/
def Json.deserializeStruct {α : Type} (visitor : Visitor Json α) : Json → Outcome String α
  | .obj fields => visitor.visitMap fields
  | .arr vs => visitor.visitSeq vs
  | j => j.invalidType visitor.expecting

/-! ### Register images -/

/-- Read a `kvm_regs` from memory. -/
def KvmRegs.read : Reader KvmRegs := do
  return { rax := ← readU64, rbx := ← readU64, rcx := ← readU64, rdx := ← readU64
           rsi := ← readU64, rdi := ← readU64, rsp := ← readU64, rbp := ← readU64
           r8 := ← readU64, r9 := ← readU64, r10 := ← readU64, r11 := ← readU64
           r12 := ← readU64, r13 := ← readU64, r14 := ← readU64, r15 := ← readU64
           rip := ← readU64, rflags := ← readU64 }

/-- Read a `kvm_segment` from memory. -/
def KvmSegment.read : Reader KvmSegment := do
  return { base := ← readU64, limit := ← readU32, selector := ← readU16, type := ← readU8
           present := ← readU8, dpl := ← readU8, db := ← readU8, s := ← readU8
           l := ← readU8, g := ← readU8, avl := ← readU8, unusable := ← readU8
           padding := ← readU8 }

/-- Read a `kvm_dtable` from memory. -/
def KvmDtable.read : Reader KvmDtable := do
  return { base := ← readU64, limit := ← readU16, padding := ← readVector readU16 3 }

/-- Read a `kvm_sregs` from memory. -/
def KvmSregs.read : Reader KvmSregs := do
  return { cs := ← KvmSegment.read, ds := ← KvmSegment.read, es := ← KvmSegment.read
           fs := ← KvmSegment.read, gs := ← KvmSegment.read, ss := ← KvmSegment.read
           tr := ← KvmSegment.read, ldt := ← KvmSegment.read
           gdt := ← KvmDtable.read, idt := ← KvmDtable.read
           cr0 := ← readU64, cr2 := ← readU64, cr3 := ← readU64, cr4 := ← readU64
           cr8 := ← readU64, efer := ← readU64, apicBase := ← readU64
           interruptBitmap := ← readVector readU64 4 }

/-- Read a `kvm_fpu` from memory. -/
def KvmFpu.read : Reader KvmFpu := do
  return { fpr := ← readVector (readVector readU8 16) 8, fcw := ← readU16, fsw := ← readU16
           ftwx := ← readU8, pad1 := ← readU8, lastOpcode := ← readU16
           lastIp := ← readU64, lastDp := ← readU64
           xmm := ← readVector (readVector readU8 16) 16
           mxcsr := ← readU32, pad2 := ← readU32 }

/-- Read a struct of `size` bytes from a byte string, after asserting its length. -/
def readImage {α : Type} (size : ℕ) (read : Reader α) (bytes : List UInt8) : Outcome String α :=
  if bytes.length = size then .ok (read bytes).1 else .panic

/-- `SerdeRegs::into_regs`. -/
def intoRegs : List UInt8 → Outcome String KvmRegs := readImage 144 KvmRegs.read

/-- `SerdeSregs::into_sregs`. -/
def intoSregs : List UInt8 → Outcome String KvmSregs := readImage 312 KvmSregs.read

/-- `SerdeFpu::into_fpu`. -/
def intoFpu : List UInt8 → Outcome String KvmFpu := readImage 416 KvmFpu.read

/-! ### Snapshots -/

/-- The decoders of the field values that are not structs themselves. The elements of a
`VmState` ask for no others. -/
def Json.leaves : FieldDecoders Json where
  u32 := Json.u32
  u64 := Json.u64
  usize := Json.usize
  string := Json.string
  vecU8 := Json.vec Json.u8
  borrowedBytes := Json.borrowedBytes
  regs j := do intoRegs (← j.byteBuf)
  sregs j := do intoSregs (← j.byteBuf)
  fpu j := do intoFpu (← j.byteBuf)
  msrPairs := Json.vec Json.pair
  memoryRegions := Json.invalidType ""
  vcpuStates := Json.invalidType ""
  deviceStates := Json.invalidType ""

/-- `MemoryRegion::deserialize`. -/
def MemoryRegion.fromJson : Json → Outcome String MemoryRegion :=
  Json.deserializeStruct (memoryRegionVisitor Json.leaves)

/-- `DeviceState::deserialize`. -/
def DeviceState.fromJson : Json → Outcome String DeviceState :=
  Json.deserializeStruct (deviceStateVisitor Json.leaves)

/-- `VcpuState::deserialize`. -/
def VcpuState.fromJson : Json → Outcome String VcpuState :=
  Json.deserializeStruct (vcpuStateVisitor Json.leaves)

/-- The decoders of the fields of a `VmState`. -/
def Json.decoders : FieldDecoders Json :=
  { Json.leaves with
    memoryRegions := Json.vec MemoryRegion.fromJson
    vcpuStates := Json.vec VcpuState.fromJson
    deviceStates := Json.vec DeviceState.fromJson }

/-- `serde_json::from_str` at `VmState`. -/
def VmState.fromJson : Json → Outcome String VmState :=
  Json.deserializeStruct (vmStateVisitor Json.decoders)

/-! ### Values -/

/-- A number that fits is read. -/
@[simp] theorem Json.unsigned_posInt {expected : String} {w : ℕ} {n : UInt64}
    (h : n.toNat < 2 ^ w) : (Json.posInt n).unsigned expected w = .ok n.toNat := if_pos h

/-- A `u8` is read back. -/
theorem Json.u8_toUInt64 (x : UInt8) : (Json.posInt x.toUInt64).u8 = .ok x := by
  have hlt := x.toNat_lt
  rw [Json.u8, Json.unsigned_posInt (by rwa [UInt8.toNat_toUInt64])]
  show Outcome.ok (UInt8.ofNat x.toUInt64.toNat) = _
  rw [UInt8.toNat_toUInt64, UInt8.ofNat_toNat]

/-- A `u32` is read back. -/
theorem Json.u32_toUInt64 (x : UInt32) : (Json.posInt x.toUInt64).u32 = .ok x := by
  have hlt := x.toNat_lt
  rw [Json.u32, Json.unsigned_posInt (by rwa [UInt32.toNat_toUInt64])]
  show Outcome.ok (UInt32.ofNat x.toUInt64.toNat) = _
  rw [UInt32.toNat_toUInt64, UInt32.ofNat_toNat]

/-- A `u64` is read back. -/
theorem Json.u64_posInt (x : UInt64) : (Json.posInt x).u64 = .ok x := by
  rw [Json.u64, Json.unsigned_posInt x.toNat_lt]
  show Outcome.ok (UInt64.ofNat x.toNat) = _
  rw [UInt64.ofNat_toNat]

/-- A `usize`, which is written as a `u64`, is read back. -/
theorem Json.usize_posInt (x : UInt64) : (Json.posInt x).usize = .ok x := by
  rw [Json.usize, Json.unsigned_posInt x.toNat_lt]
  show Outcome.ok (UInt64.ofNat x.toNat) = _
  rw [UInt64.ofNat_toNat]

/-- Elements that are read back one by one are read back as a list. -/
theorem mapM_decode {α β : Type} {encode : α → Json} {decode : Json → Outcome String β}
    {g : α → β} (h : ∀ a, decode (encode a) = .ok (g a)) (l : List α) :
    (l.map encode).mapM decode = .ok (l.map g) := by
  induction l with
  | nil => rfl
  | cons a l ih =>
      rw [List.map_cons, List.mapM_cons, h a, ih]
      rfl

/-- A byte string is read back from the array it is written as. -/
theorem Json.byteBuf_bytes (bs : List UInt8) : (SerdeValue.bytes bs).toJson.byteBuf = .ok bs := by
  rw [SerdeValue.toJson, Json.byteBuf, mapM_decode Json.u8_toUInt64, List.map_id']

/-! ### Images read back -/

/-- The image of a `kvm_regs` is read back. -/
theorem KvmRegs.reads (r : KvmRegs) : Reads KvmRegs.read r.toBytes r := by
  unfold KvmRegs.read KvmRegs.toBytes
  simp only [List.flatMap_cons, List.flatMap_nil]
  iterate 18 refine (reads_u64 _).bind ?_
  exact Reads.pure _

/-- The image of a `kvm_segment` is read back. -/
theorem KvmSegment.reads (s : KvmSegment) : Reads KvmSegment.read s.toBytes s := by
  unfold KvmSegment.read KvmSegment.toBytes
  simp only [List.append_assoc]
  refine (reads_u64 _).bind ((reads_u32 _).bind ((reads_u16 _).bind ?_))
  iterate 10 refine Reads.bind_u8 ?_
  exact Reads.pure _

/-- The image of a `kvm_dtable` is read back. -/
theorem KvmDtable.reads (d : KvmDtable) : Reads KvmDtable.read d.toBytes d := by
  unfold KvmDtable.read KvmDtable.toBytes
  rw [List.append_assoc]
  exact (reads_u64 _).bind ((reads_u16 _).bind ((reads_vector reads_u16 d.padding).map _))

/-- The image of a `kvm_sregs` is read back. -/
theorem KvmSregs.reads (s : KvmSregs) : Reads KvmSregs.read s.toBytes s := by
  unfold KvmSregs.read KvmSregs.toBytes
  simp only [List.flatMap_cons, List.flatMap_nil, List.append_assoc, List.cons_append,
    List.nil_append]
  iterate 8 refine (KvmSegment.reads _).bind ?_
  refine (KvmDtable.reads _).bind ((KvmDtable.reads _).bind ?_)
  iterate 7 refine (reads_u64 _).bind ?_
  exact (reads_vector reads_u64 s.interruptBitmap).map _

/-- A byte array is its own image. -/
theorem reads_bytes {n : ℕ} (v : Vector UInt8 n) : Reads (readVector readU8 n) v.toList v := by
  have hread := reads_vector (p := readU8) (fun x => Reads.bind_u8 (Reads.pure x)) v
  rwa [List.flatMap_singleton'] at hread

/-- The image of a `kvm_fpu` is read back. -/
theorem KvmFpu.reads (f : KvmFpu) : Reads KvmFpu.read f.toBytes f := by
  unfold KvmFpu.read KvmFpu.toBytes
  simp only [List.append_assoc, List.cons_append, List.nil_append]
  refine (reads_vector reads_bytes f.fpr).bind ((reads_u16 _).bind ((reads_u16 _).bind ?_))
  refine Reads.bind_u8 (Reads.bind_u8 ((reads_u16 _).bind ?_))
  refine (reads_u64 _).bind ((reads_u64 _).bind ((reads_vector reads_bytes f.xmm).bind ?_))
  exact (reads_u32 _).bind ((reads_u32 _).map _)

/-- The size that `SerdeRegs` asserts. -/
theorem KvmRegs.length_toBytes (r : KvmRegs) : r.toBytes.length = 144 := by
  simp [KvmRegs.toBytes, length_leBytes]

/-- The size of a `kvm_segment`. -/
theorem KvmSegment.length_toBytes (s : KvmSegment) : s.toBytes.length = 24 := by
  simp [KvmSegment.toBytes, length_leBytes]

/-- The size of a `kvm_dtable`. -/
theorem KvmDtable.length_toBytes (d : KvmDtable) : d.toBytes.length = 16 := by
  simp [KvmDtable.toBytes, length_leBytes]

/-- The size that `SerdeSregs` asserts. -/
theorem KvmSregs.length_toBytes (s : KvmSregs) : s.toBytes.length = 312 := by
  simp [KvmSregs.toBytes, length_leBytes, KvmSegment.length_toBytes, KvmDtable.length_toBytes]

/-- The size that `SerdeFpu` asserts. -/
theorem KvmFpu.length_toBytes (f : KvmFpu) : f.toBytes.length = 416 := by
  simp [KvmFpu.toBytes, length_leBytes]

/-- A struct is read back from a byte string that is its image. -/
theorem readImage_of_reads {α : Type} {size : ℕ} {read : Reader α} {bytes : List UInt8} {a : α}
    (hlen : bytes.length = size) (h : Reads read bytes a) :
    readImage size read bytes = .ok a := by
  rw [readImage, if_pos hlen, h.run]

/-! ### Fields in the order they are written -/

section Visitors

variable {X : Type} {d : FieldDecoders X}

/-- A field that has not been read yet takes its value. -/
@[simp] theorem readField_none {α : Type} {name : String} {decode : X → Outcome String α} {v : X}
    {a : α} (h : decode v = .ok a) : readField name none decode v = .ok (some a) := by
  show (decode v >>= fun a => _) = _
  rw [h]
  rfl

/-- A `MemoryRegion` from its three fields. -/
theorem memoryRegionVisitor_fields {va vs vd : X} {r : MemoryRegion}
    (hva : d.u64 va = .ok r.guestAddr) (hvs : d.usize vs = .ok r.size)
    (hvd : d.vecU8 vd = .ok r.data) :
    (memoryRegionVisitor d).visitMap [("guest_addr", va), ("size", vs), ("data", vd)] =
      .ok r := by
  simp [memoryRegionVisitor, Visitor.ofMap, MemoryRegionFields.visit, requireField, hva, hvs, hvd]

/-- A `VcpuState` from its five fields. The MSRs come without their reserved field. -/
theorem vcpuStateVisitor_fields {vi vr vs vf vm : X} {s : VcpuState}
    {msrs : List (UInt32 × UInt64)} (hvi : d.u32 vi = .ok s.id)
    (hvr : d.regs vr = .ok s.regs) (hvs : d.sregs vs = .ok s.sregs)
    (hvf : d.fpu vf = .ok s.fpu) (hvm : d.msrPairs vm = .ok msrs) :
    (vcpuStateVisitor d).visitMap
        [("id", vi), ("regs", vr), ("sregs", vs), ("fpu", vf), ("msrs", vm)] =
      .ok { s with msrs := msrs.map fun p => { index := p.1, reserved := 0, data := p.2 } } := by
  simp [vcpuStateVisitor, Visitor.ofMap, VcpuStateFields.visit, requireField, hvi, hvr, hvs,
    hvf, hvm]

/-- A `VmState` from its three fields. -/
theorem vmStateVisitor_fields {vr vc vd : X} {s : VmState}
    (hvr : d.memoryRegions vr = .ok s.memoryRegions)
    (hvc : d.vcpuStates vc = .ok s.vcpuStates) (hvd : d.deviceStates vd = .ok s.deviceStates) :
    (vmStateVisitor d).visitMap
        [("memory_regions", vr), ("vcpu_states", vc), ("device_states", vd)] = .ok s := by
  simp [vmStateVisitor, Visitor.ofMap, VmStateFields.visit, requireField, hvr, hvc, hvd]

end Visitors

/-! ### Round trips -/

/-- A memory region is read back. -/
theorem MemoryRegion.fromJson_serialize (r : MemoryRegion) :
    MemoryRegion.fromJson r.serialize.toJson = .ok r := by
  simp only [MemoryRegion.serialize, SerdeValue.toJson, SerdeValue.toJsonFields,
    SerdeValue.toJsonField, SerdeValue.toJsonAll_map]
  refine memoryRegionVisitor_fields (Json.u64_posInt _) (Json.usize_posInt _) ?_
  show (r.data.map _).mapM Json.u8 = _
  rw [mapM_decode Json.u8_toUInt64, List.map_id']

/-- The state with the reserved fields of its MSR entries cleared. -/
def VcpuState.clearReserved (s : VcpuState) : VcpuState :=
  { s with msrs := s.msrs.map fun e => { e with reserved := 0 } }

/-- The index and the value of an MSR are read back. -/
theorem Json.pair_tuple (e : KvmMsrEntry) :
    (SerdeValue.tuple [.u32 e.index, .u64 e.data]).toJson.pair = .ok (e.index, e.data) := by
  simp only [SerdeValue.toJson, SerdeValue.toJsonAll, Json.pair, Json.u32_toUInt64,
    Json.u64_posInt, Outcome.ok_bind, Outcome.pure_eq]

/-- A register struct is read back from the newtype it is written as. -/
theorem Json.image_newtypeStruct {α : Type} {size : ℕ} {read : Reader α} {bytes : List UInt8}
    {a : α} (name : String) (hlen : bytes.length = size) (h : Reads read bytes a) :
    (do readImage size read (← (SerdeValue.newtypeStruct name (.bytes bytes)).toJson.byteBuf)) =
      .ok a := by
  rw [SerdeValue.toJson, Json.byteBuf_bytes, Outcome.ok_bind, readImage_of_reads hlen h]

/-- A vCPU state is read back, but for the reserved fields. -/
theorem VcpuState.fromJson_serialize (s : VcpuState) :
    VcpuState.fromJson s.serialize.toJson = .ok s.clearReserved := by
  have hmsrs : Json.leaves.msrPairs
      (SerdeValue.seq (s.msrs.map fun e => .tuple [.u32 e.index, .u64 e.data])).toJson =
        .ok (s.msrs.map fun e => (e.index, e.data)) := by
    rw [SerdeValue.toJson, SerdeValue.toJsonAll_map]
    exact mapM_decode Json.pair_tuple s.msrs
  have hid : (SerdeValue.u32 s.id).toJson.u32 = .ok s.id := by
    rw [SerdeValue.toJson, Json.u32_toUInt64]
  rw [VcpuState.serialize, SerdeValue.toJson]
  simp only [SerdeValue.toJsonFields, SerdeValue.toJsonField]
  have hread := vcpuStateVisitor_fields (d := Json.leaves) (s := s) hid
    (Json.image_newtypeStruct "SerdeRegs" s.regs.length_toBytes s.regs.reads)
    (Json.image_newtypeStruct "SerdeSregs" s.sregs.length_toBytes s.sregs.reads)
    (Json.image_newtypeStruct "SerdeFpu" s.fpu.length_toBytes s.fpu.reads) hmsrs
  rw [List.map_map] at hread
  exact hread

/-- A snapshot is read back if its device states are. -/
theorem VmState.fromJson_serialize (regions : List MemoryRegion) (states : List VcpuState)
    {devices devices' : List DeviceState}
    (hdevices : Json.vec DeviceState.fromJson
      (SerdeValue.seq (devices.map DeviceState.serialize)).toJson = .ok devices') :
    VmState.fromJson (VmState.serialize ⟨regions, states, devices⟩).toJson =
      .ok ⟨regions, states.map VcpuState.clearReserved, devices'⟩ := by
  have hregions : Json.vec MemoryRegion.fromJson
      (SerdeValue.seq (regions.map MemoryRegion.serialize)).toJson = .ok regions := by
    rw [SerdeValue.toJson, SerdeValue.toJsonAll_map]
    have hdecode := mapM_decode MemoryRegion.fromJson_serialize regions
    rwa [List.map_id'] at hdecode
  have hstates : Json.vec VcpuState.fromJson
      (SerdeValue.seq (states.map VcpuState.serialize)).toJson =
        .ok (states.map VcpuState.clearReserved) := by
    rw [SerdeValue.toJson, SerdeValue.toJsonAll_map]
    exact mapM_decode VcpuState.fromJson_serialize states
  rw [VmState.serialize, SerdeValue.toJson]
  simp only [SerdeValue.toJsonFields, SerdeValue.toJsonField]
  exact vmStateVisitor_fields (d := Json.decoders) hregions hstates hdevices

/-- No device states are read back as none. -/
theorem Json.vec_deviceStates_nil :
    Json.vec DeviceState.fromJson
      (SerdeValue.seq (([] : List DeviceState).map DeviceState.serialize)).toJson = .ok [] := by
  rw [List.map_nil, SerdeValue.toJson, SerdeValue.toJsonAll]
  rfl

/-- **The JSON format of snapshots round-trips**: a `VmState` without device states is read
back from the document it is written as, field by field and element by element, except that
the reserved field of each MSR entry is cleared. -/
theorem vmState_json_roundtrip (regions : List MemoryRegion) (states : List VcpuState) :
    VmState.fromJson (VmState.serialize ⟨regions, states, []⟩).toJson =
      .ok ⟨regions, states.map VcpuState.clearReserved, []⟩ :=
  VmState.fromJson_serialize regions states Json.vec_deviceStates_nil

end MoVm
