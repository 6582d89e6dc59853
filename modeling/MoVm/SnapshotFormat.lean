import MoVm.Snapshot

/-!
# The Snapshot File Format

The model of the `Serialize` and `Deserialize` implementations in `snapshot.rs` and of the
file functions built on them. Serialization produces a tree of the serde data model;
bincode, which turns the tree into bytes, is a parameter, with `Bincode.plain` the
encoding it is documented to use.

A `Deserialize` implementation hands a visitor to the deserializer. The visitors of
`snapshot.rs` say how to read a map of fields and nothing else, so a sequence of fields
meets serde's default, which is an error (`Visitor.ofMap`). Bincode hands every struct over
as a sequence. `load_of_save_fails` is the consequence: a file that `save_to_file` has
written is never loaded back.

The decoders of field values are parameters of the visitors.
-/

open Lib

namespace MoVm

/-! ### Serialization -/

/-- A value of the serde data model. -/
inductive SerdeValue
  | u8 (n : UInt8)
  | u32 (n : UInt32)
  | u64 (n : UInt64)
  | str (s : String)
  | bytes (bs : List UInt8)
  | seq (vs : List SerdeValue)
  | tuple (vs : List SerdeValue)
  | newtypeStruct (name : String) (v : SerdeValue)
  | struct (name : String) (fields : List (String × SerdeValue))

/-- The bytes of a `kvm_regs` in memory. -/
def KvmRegs.toBytes (r : KvmRegs) : List UInt8 :=
  [r.rax, r.rbx, r.rcx, r.rdx, r.rsi, r.rdi, r.rsp, r.rbp, r.r8, r.r9, r.r10, r.r11, r.r12,
    r.r13, r.r14, r.r15, r.rip, r.rflags].flatMap fun x => leBytes 8 x.toNat

/-- The bytes of a `kvm_segment` in memory. -/
def KvmSegment.toBytes (s : KvmSegment) : List UInt8 :=
  leBytes 8 s.base.toNat ++ leBytes 4 s.limit.toNat ++ leBytes 2 s.selector.toNat ++
    [s.type, s.present, s.dpl, s.db, s.s, s.l, s.g, s.avl, s.unusable, s.padding]

/-- The bytes of a `kvm_dtable` in memory. -/
def KvmDtable.toBytes (d : KvmDtable) : List UInt8 :=
  leBytes 8 d.base.toNat ++ leBytes 2 d.limit.toNat ++
    d.padding.toList.flatMap fun x => leBytes 2 x.toNat

/-- The bytes of a `kvm_sregs` in memory. -/
def KvmSregs.toBytes (s : KvmSregs) : List UInt8 :=
  ([s.cs, s.ds, s.es, s.fs, s.gs, s.ss, s.tr, s.ldt].flatMap KvmSegment.toBytes) ++
    s.gdt.toBytes ++ s.idt.toBytes ++
    ([s.cr0, s.cr2, s.cr3, s.cr4, s.cr8, s.efer, s.apicBase] ++
      s.interruptBitmap.toList).flatMap fun x => leBytes 8 x.toNat

/-- The bytes of a `kvm_fpu` in memory. -/
def KvmFpu.toBytes (f : KvmFpu) : List UInt8 :=
  (f.fpr.toList.flatMap Vector.toList) ++ leBytes 2 f.fcw.toNat ++ leBytes 2 f.fsw.toNat ++
    [f.ftwx, f.pad1] ++ leBytes 2 f.lastOpcode.toNat ++ leBytes 8 f.lastIp.toNat ++
    leBytes 8 f.lastDp.toNat ++ (f.xmm.toList.flatMap Vector.toList) ++
    leBytes 4 f.mxcsr.toNat ++ leBytes 4 f.pad2.toNat

/-- `MemoryRegion::serialize`. A `usize` is written as a `u64`. -/
def MemoryRegion.serialize (r : MemoryRegion) : SerdeValue :=
  .struct "MemoryRegion"
    [("guest_addr", .u64 r.guestAddr), ("size", .u64 r.size), ("data", .seq (r.data.map .u8))]

/-- `DeviceState::serialize`. -/
def DeviceState.serialize (d : DeviceState) : SerdeValue :=
  .struct "DeviceState" [("device_type", .str d.deviceType), ("state", .bytes d.state)]

/-- The registers are written as raw bytes, and of each MSR only index and value. -/
def VcpuState.serialize (s : VcpuState) : SerdeValue :=
  .struct "VcpuState"
    [("id", .u32 s.id),
      ("regs", .newtypeStruct "SerdeRegs" (.bytes s.regs.toBytes)),
      ("sregs", .newtypeStruct "SerdeSregs" (.bytes s.sregs.toBytes)),
      ("fpu", .newtypeStruct "SerdeFpu" (.bytes s.fpu.toBytes)),
      ("msrs", .seq (s.msrs.map fun e => .tuple [.u32 e.index, .u64 e.data]))]

/-- `VmState::serialize`. -/
def VmState.serialize (s : VmState) : SerdeValue :=
  .struct "VmState"
    [("memory_regions", .seq (s.memoryRegions.map MemoryRegion.serialize)),
      ("vcpu_states", .seq (s.vcpuStates.map VcpuState.serialize)),
      ("device_states", .seq (s.deviceStates.map DeviceState.serialize))]

/-! ### Visitors -/

/-- A serde visitor over field values of type `X`: what it does with a map of fields and
what it does with a sequence of them. -/
structure Visitor (X α : Type) where
  expecting : String
  visitMap : List (String × X) → Outcome String α
  visitSeq : List X → Outcome String α

/-- A visitor that implements `visit_map` only. For a sequence it has serde's default. -/
def Visitor.ofMap {X α : Type} (expecting : String)
    (visitMap : List (String × X) → Outcome String α) : Visitor X α where
  expecting := expecting
  visitMap := visitMap
  visitSeq _ := .err ("invalid type: sequence, expected " ++ expecting)

variable {X : Type}

/-- Read a field that must not have been read before. -/
def readField {α : Type} (name : String) (slot : Option α) (decode : X → Outcome String α)
    (value : X) : Outcome String (Option α) :=
  if slot.isSome then .err ("duplicate field `" ++ name ++ "`")
  else do
    let a ← decode value
    return some a

/-- A field that has to be there. -/
def requireField {α : Type} (name : String) : Option α → Outcome String α
  | some a => .ok a
  | none => .err ("missing field `" ++ name ++ "`")

/-- The decoders of the field values of the four structs. -/
structure FieldDecoders (X : Type) where
  u32 : X → Outcome String UInt32
  u64 : X → Outcome String UInt64
  usize : X → Outcome String UInt64
  string : X → Outcome String String
  vecU8 : X → Outcome String (List UInt8)
  borrowedBytes : X → Outcome String (List UInt8)
  regs : X → Outcome String KvmRegs
  sregs : X → Outcome String KvmSregs
  fpu : X → Outcome String KvmFpu
  msrPairs : X → Outcome String (List (UInt32 × UInt64))
  memoryRegions : X → Outcome String (List MemoryRegion)
  vcpuStates : X → Outcome String (List VcpuState)
  deviceStates : X → Outcome String (List DeviceState)

variable (dec : FieldDecoders X)

/-- The fields of a `MemoryRegion` read so far. -/
structure MemoryRegionFields where
  guestAddr : Option UInt64
  size : Option UInt64
  data : Option (List UInt8)

/-- The body of the loop of `visit_map`. -/
def MemoryRegionFields.visit (f : MemoryRegionFields) (entry : String × X) :
    Outcome String MemoryRegionFields :=
  match entry.1 with
  | "guest_addr" => do
      return { f with guestAddr := ← readField "guest_addr" f.guestAddr dec.u64 entry.2 }
  | "size" => do return { f with size := ← readField "size" f.size dec.usize entry.2 }
  | "data" => do return { f with data := ← readField "data" f.data dec.vecU8 entry.2 }
  | _ => return f

/-- `MemoryRegionVisitor`. -/
def memoryRegionVisitor : Visitor X MemoryRegion :=
  .ofMap "struct MemoryRegion" fun map => do
    let f ← map.foldlM (MemoryRegionFields.visit dec) ⟨none, none, none⟩
    let guestAddr ← requireField "guest_addr" f.guestAddr
    let size ← requireField "size" f.size
    let data ← requireField "data" f.data
    return { guestAddr, size, data }

/-- The fields of a `DeviceState` read so far. -/
structure DeviceStateFields where
  deviceType : Option String
  state : Option (List UInt8)

/-- The body of the loop of `visit_map`. -/
def DeviceStateFields.visit (f : DeviceStateFields) (entry : String × X) :
    Outcome String DeviceStateFields :=
  match entry.1 with
  | "device_type" => do
      return { f with deviceType := ← readField "device_type" f.deviceType dec.string entry.2 }
  | "state" => do
      return { f with state := ← readField "state" f.state dec.borrowedBytes entry.2 }
  | _ => return f

/-- `DeviceStateVisitor`. -/
def deviceStateVisitor : Visitor X DeviceState :=
  .ofMap "struct DeviceState" fun map => do
    let f ← map.foldlM (DeviceStateFields.visit dec) ⟨none, none⟩
    let deviceType ← requireField "device_type" f.deviceType
    let state ← requireField "state" f.state
    return { deviceType, state }

/-- The fields of a `VcpuState` read so far. -/
structure VcpuStateFields where
  id : Option UInt32
  regs : Option KvmRegs
  sregs : Option KvmSregs
  fpu : Option KvmFpu
  msrs : Option (List (UInt32 × UInt64))

/-- The body of the loop of `visit_map`. -/
def VcpuStateFields.visit (f : VcpuStateFields) (entry : String × X) :
    Outcome String VcpuStateFields :=
  match entry.1 with
  | "id" => do return { f with id := ← readField "id" f.id dec.u32 entry.2 }
  | "regs" => do return { f with regs := ← readField "regs" f.regs dec.regs entry.2 }
  | "sregs" => do return { f with sregs := ← readField "sregs" f.sregs dec.sregs entry.2 }
  | "fpu" => do return { f with fpu := ← readField "fpu" f.fpu dec.fpu entry.2 }
  | "msrs" => do return { f with msrs := ← readField "msrs" f.msrs dec.msrPairs entry.2 }
  | _ => return f

/-- `VcpuStateVisitor`. -/
def vcpuStateVisitor : Visitor X VcpuState :=
  .ofMap "struct VcpuState" fun map => do
    let f ← map.foldlM (VcpuStateFields.visit dec) ⟨none, none, none, none, none⟩
    let id ← requireField "id" f.id
    let regs ← requireField "regs" f.regs
    let sregs ← requireField "sregs" f.sregs
    let fpu ← requireField "fpu" f.fpu
    let msrs := (f.msrs.getD []).map fun (index, data) => { index, reserved := 0, data }
    return { id, regs, sregs, fpu, msrs }

/-- The fields of a `VmState` read so far. -/
structure VmStateFields where
  memoryRegions : Option (List MemoryRegion)
  deviceStates : Option (List DeviceState)
  vcpuStates : Option (List VcpuState)

/-- The body of the loop of `visit_map`. -/
def VmStateFields.visit (f : VmStateFields) (entry : String × X) :
    Outcome String VmStateFields :=
  match entry.1 with
  | "memory_regions" => do
      return { f with
        memoryRegions := ← readField "memory_regions" f.memoryRegions dec.memoryRegions entry.2 }
  | "device_states" => do
      return { f with
        deviceStates := ← readField "device_states" f.deviceStates dec.deviceStates entry.2 }
  | "vcpu_states" => do
      return { f with
        vcpuStates := ← readField "vcpu_states" f.vcpuStates dec.vcpuStates entry.2 }
  | _ => return f

/-- `VmStateVisitor`. -/
def vmStateVisitor : Visitor X VmState :=
  .ofMap "struct VmState" fun map => do
    let f ← map.foldlM (VmStateFields.visit dec) ⟨none, none, none⟩
    let memoryRegions ← requireField "memory_regions" f.memoryRegions
    let deviceStates := f.deviceStates.getD []
    let vcpuStates := f.vcpuStates.getD []
    return { memoryRegions, vcpuStates, deviceStates }

/-! ### Bincode -/

/-- The bincode calls of the file functions, with field values of type `X`. -/
structure Bincode (X : Type) where
  /-- What `serialize_into` writes for a value. -/
  serialize : SerdeValue → Except String (List UInt8)
  /-- The sequence of fields that the bytes of a struct are handed over as. -/
  seqAccess : List UInt8 → List X
  decoders : FieldDecoders X

/-- `deserialize_struct`: a struct is a tuple of its fields, so the visitor is driven
through `visit_seq`. -/
def Bincode.deserializeStruct {α : Type} (b : Bincode X) (visitor : Visitor X α)
    (bytes : List UInt8) : Outcome String α :=
  visitor.visitSeq (b.seqAccess bytes)

/-- `VmState::deserialize`. -/
def VmState.deserialize (b : Bincode X) (bytes : List UInt8) : Outcome String VmState :=
  b.deserializeStruct (vmStateVisitor b.decoders) bytes

mutual

/-- The default encoding: fixed-width little-endian integers, lengths as 64-bit integers,
and structs as their fields one behind the other. -/
def SerdeValue.encode : SerdeValue → List UInt8
  | .u8 n => [n]
  | .u32 n => leBytes 4 n.toNat
  | .u64 n => leBytes 8 n.toNat
  | .str s =>
      let bs := s.toList.flatMap String.utf8EncodeChar
      leBytes 8 bs.length ++ bs
  | .bytes bs => leBytes 8 bs.length ++ bs
  | .seq vs => leBytes 8 vs.length ++ SerdeValue.encodeAll vs
  | .tuple vs => SerdeValue.encodeAll vs
  | .newtypeStruct _ v => v.encode
  | .struct _ fields => SerdeValue.encodeFields fields

/-- Elements one after the other. -/
def SerdeValue.encodeAll : List SerdeValue → List UInt8
  | [] => []
  | v :: vs => v.encode ++ SerdeValue.encodeAll vs

/-- Fields one after the other. -/
def SerdeValue.encodeFields : List (String × SerdeValue) → List UInt8
  | [] => []
  | f :: fields => SerdeValue.encodeField f ++ SerdeValue.encodeFields fields

/-- A field without its name. -/
def SerdeValue.encodeField : String × SerdeValue → List UInt8
  | (_, v) => v.encode

end

/-- Bincode with its default encoding. The field values are left undecoded, since nothing
asks for them. -/
def Bincode.plain : Bincode (List UInt8) where
  serialize v := .ok v.encode
  seqAccess bytes := [bytes]
  decoders :=
    { u32 := fun _ => .err ""
      u64 := fun _ => .err ""
      usize := fun _ => .err ""
      string := fun _ => .err ""
      vecU8 := .ok
      borrowedBytes := .ok
      regs := fun _ => .err ""
      sregs := fun _ => .err ""
      fpu := fun _ => .err ""
      msrPairs := fun _ => .err ""
      memoryRegions := fun _ => .err ""
      vcpuStates := fun _ => .err ""
      deviceStates := fun _ => .err "" }

/-! ### Files -/

/-- The host's files, in a state of type `S`. -/
structure SnapshotFiles (S : Type) where
  /-- `File::create`. -/
  create : S → String → Except String S
  /-- Write the whole file. -/
  writeAll : S → String → List UInt8 → S × Except String Unit
  /-- `File::open`, and all that can be read from it. -/
  openFile : S → String → Except String (List UInt8)
  openFile_writeAll : ∀ {s₀ s path bytes}, writeAll s₀ path bytes = (s, .ok ()) →
    openFile s path = .ok bytes

/-- A file system that is a function from paths to contents. -/
def SnapshotFiles.plain : SnapshotFiles (String → Option (List UInt8)) where
  create fs path := .ok fun p => if p = path then some [] else fs p
  writeAll fs path bytes := (fun p => if p = path then some bytes else fs p, .ok ())
  openFile fs path :=
    match fs path with
    | none => .error "No such file or directory (os error 2)"
    | some bytes => .ok bytes
  openFile_writeAll {fs₀ fs path bytes} h := by
    rw [← (Prod.mk.inj h).1]
    simp only [if_true]

variable {V S : Type} (vm : VmMemory) (kvm : KvmVcpu V) (files : SnapshotFiles S)
  (b : Bincode X)

/-- `save_to_file`: the files afterwards, and the result. -/
def saveToFile (fs : S) (m : GuestMemory) (vcpus : List (Vcpu V)) (path : String) :
    S × Except SnapshotError Unit :=
  match createSnapshot vm kvm m vcpus with
  | .error e => (fs, .error e)
  | .ok state =>
      match files.create fs path with
      | .error e => (fs, .error (.io e))
      | .ok fs =>
          match b.serialize state.serialize with
          | .error e => (fs, .error (.bincode e))
          | .ok bytes =>
              match files.writeAll fs path bytes with
              | (fs, .error e) => (fs, .error (.bincode e))
              | (fs, .ok ()) => (fs, .ok ())

/-- `load_from_file`, with the decoder of the file format left open: the memory and the
vCPUs afterwards, and how it ended. -/
def loadWith (decode : List UInt8 → Outcome String VmState) (fs : S) (m : GuestMemory)
    (vcpus : List (Vcpu V)) (path : String) :
    (GuestMemory × List (Vcpu V)) × Outcome SnapshotError Unit :=
  match files.openFile fs path with
  | .error e => ((m, vcpus), .err (.io e))
  | .ok bytes =>
      match decode bytes with
      | .panic => ((m, vcpus), .panic)
      | .err e => ((m, vcpus), .err (.bincode e))
      | .ok state =>
          match restoreSnapshot vm kvm m vcpus state with
          | (mv, .error e) => (mv, .err e)
          | (mv, .ok ()) => (mv, .ok ())

/-- `load_from_file`. -/
def loadFromFile (fs : S) (m : GuestMemory) (vcpus : List (Vcpu V)) (path : String) :
    (GuestMemory × List (Vcpu V)) × Outcome SnapshotError Unit :=
  loadWith vm kvm files (VmState.deserialize b) fs m vcpus path

variable {vm kvm files b}

/-- A load that succeeds has decoded a snapshot and restored it. -/
theorem loadWith_ok {decode : List UInt8 → Outcome String VmState} {fs : S} {m m' : GuestMemory}
    {vcpus vcpus' : List (Vcpu V)} {path : String}
    (h : loadWith vm kvm files decode fs m vcpus path = ((m', vcpus'), .ok ())) :
    ∃ bytes state, files.openFile fs path = .ok bytes ∧ decode bytes = .ok state ∧
      restoreSnapshot vm kvm m vcpus state = ((m', vcpus'), .ok ()) := by
  rw [loadWith] at h
  cases hopen : files.openFile fs path with
  | error e =>
      simp only [hopen] at h
      cases (Prod.mk.inj h).2
  | ok bytes =>
      cases hdec : decode bytes with
      | panic =>
          simp only [hopen, hdec] at h
          cases (Prod.mk.inj h).2
      | err e =>
          simp only [hopen, hdec] at h
          cases (Prod.mk.inj h).2
      | ok state =>
          simp only [hopen, hdec] at h
          rcases hrestore : restoreSnapshot vm kvm m vcpus state with ⟨mv, e | u⟩
          · rw [hrestore] at h
            cases (Prod.mk.inj h).2
          · rw [hrestore] at h
            obtain rfl := (Prod.mk.inj h).1
            exact ⟨bytes, state, rfl, hdec, hrestore⟩

/-- Whatever the bytes, decoding them stops at the first struct. -/
theorem VmState.deserialize_eq_err (bytes : List UInt8) :
    VmState.deserialize b bytes =
      .err "invalid type: sequence, expected struct VmState" := by
  have happ : "invalid type: sequence, expected " ++ "struct VmState" =
      "invalid type: sequence, expected struct VmState" := by decide
  show Outcome.err _ = _
  rw [happ]

/-- The bytes that a successful `save_to_file` has written are those of the snapshot. -/
theorem saveToFile_ok {fs fs' : S} {m : GuestMemory} {vcpus : List (Vcpu V)} {path : String}
    (h : saveToFile vm kvm files b fs m vcpus path = (fs', .ok ())) :
    ∃ state bytes, createSnapshot vm kvm m vcpus = .ok state ∧
      b.serialize state.serialize = .ok bytes ∧ files.openFile fs' path = .ok bytes := by
  unfold saveToFile at h
  cases hs : createSnapshot vm kvm m vcpus with
  | error e => simp only [hs] at h; cases (Prod.mk.inj h).2
  | ok state =>
      cases hc : files.create fs path with
      | error e => simp only [hs, hc] at h; cases (Prod.mk.inj h).2
      | ok fs₁ =>
          cases hb : b.serialize state.serialize with
          | error e => simp only [hs, hc, hb] at h; cases (Prod.mk.inj h).2
          | ok bytes =>
              rcases hw : files.writeAll fs₁ path bytes with ⟨fs₂, e | u⟩
              · simp only [hs, hc, hb, hw] at h
                cases (Prod.mk.inj h).2
              · simp only [hs, hc, hb, hw] at h
                obtain rfl := (Prod.mk.inj h).1
                exact ⟨state, bytes, rfl, hb, files.openFile_writeAll hw⟩

/-- **A saved snapshot is never loaded back**: after every successful `save_to_file`, the
bytes written decode to no `VmState` at all, and `load_from_file` returns a decoding error
and leaves memory and vCPUs as they are. -/
theorem load_of_save_fails {fs fs' : S} {m : GuestMemory} {vcpus : List (Vcpu V)}
    {path : String} (hsave : saveToFile vm kvm files b fs m vcpus path = (fs', .ok ()))
    (m' : GuestMemory) (vcpus' : List (Vcpu V)) :
    ∃ state bytes, createSnapshot vm kvm m vcpus = .ok state ∧
      b.serialize state.serialize = .ok bytes ∧ files.openFile fs' path = .ok bytes ∧
      (∀ decoded, VmState.deserialize b bytes ≠ .ok decoded) ∧
      loadFromFile vm kvm files b fs' m' vcpus' path =
        ((m', vcpus'),
          .err (.bincode "invalid type: sequence, expected struct VmState")) := by
  obtain ⟨state, bytes, hstate, hbytes, hopen⟩ := saveToFile_ok hsave
  refine ⟨state, bytes, hstate, hbytes, hopen, fun decoded h => ?_, ?_⟩
  · rw [VmState.deserialize_eq_err] at h
    cases h
  · simp only [loadFromFile, loadWith, hopen, VmState.deserialize_eq_err]

/-- A machine with one page of memory and no vCPU, saved to an empty file system. -/
theorem saveToFile_page :
    ∃ fs', saveToFile VmMemory.mmap PlainVcpu.kvm SnapshotFiles.plain Bincode.plain
      (fun _ => none) (GuestMemory.page [7]) [] "vm.snapshot" = (fs', .ok ()) := by
  obtain ⟨s, hs⟩ := createSnapshot_readable VmMemory.mmap PlainVcpu.kvm
    (GuestMemory.page [7]) (List.forall_mem_nil _)
  simp only [saveToFile, hs]
  exact ⟨_, rfl⟩

theorem load_of_save_fails_page :
    ∃ fs', saveToFile VmMemory.mmap PlainVcpu.kvm SnapshotFiles.plain Bincode.plain
        (fun _ => none) (GuestMemory.page [7]) [] "vm.snapshot" = (fs', .ok ()) ∧
      (loadFromFile VmMemory.mmap PlainVcpu.kvm SnapshotFiles.plain Bincode.plain fs'
        (GuestMemory.page []) [] "vm.snapshot").2 =
          .err (.bincode "invalid type: sequence, expected struct VmState") := by
  obtain ⟨fs', hsave⟩ := saveToFile_page
  obtain ⟨state, bytes, -, -, -, -, hload⟩ :=
    load_of_save_fails hsave (GuestMemory.page []) []
  exact ⟨fs', hsave, congrArg Prod.snd hload⟩

/-- The file of that machine is not decoded to the snapshot it was written from. -/
theorem page_not_loaded :
    ∃ fs' state bytes,
      saveToFile VmMemory.mmap PlainVcpu.kvm SnapshotFiles.plain Bincode.plain
        (fun _ => none) (GuestMemory.page [7]) [] "vm.snapshot" = (fs', .ok ()) ∧
      createSnapshot VmMemory.mmap PlainVcpu.kvm (GuestMemory.page [7]) [] = .ok state ∧
      SnapshotFiles.plain.openFile fs' "vm.snapshot" = .ok bytes ∧
      VmState.deserialize Bincode.plain bytes ≠ .ok state := by
  obtain ⟨fs', hsave⟩ := saveToFile_page
  obtain ⟨state, bytes, hstate, -, hopen⟩ := saveToFile_ok hsave
  refine ⟨fs', state, bytes, hsave, hstate, hopen, fun h => ?_⟩
  rw [VmState.deserialize_eq_err] at h
  cases h

end MoVm
