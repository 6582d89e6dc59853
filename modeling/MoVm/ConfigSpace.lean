import MoVm.Devices
import MoVm.Lib.Buffer

/-!
# Features and Configuration Spaces

What the devices tell a driver before any queue is used: the type, the feature bits and the
configuration space of `virtio/console.rs`, `virtio/block.rs`, `virtio/net.rs` and
`virtio/fs.rs`.

Three of the devices keep their configuration in a packed struct and answer a read with the
bytes of the struct from the given offset on (`readConfigSpace`): as many as the buffer
takes, and no more than there are. The file system device fills the buffer with zeros.
-/

open Lib

namespace MoVm

variable {Q F S : Type}

/-! ### Reading a configuration space -/

/-- The body of `read_config` over the bytes of a configuration struct. -/
def readConfigSpace (config : List UInt8) (offset : UInt64) (data : List UInt8) :
    List UInt8 × Except HypervisorError Unit :=
  if config.length ≤ offset.toNat then
    (data, .error (.memoryError "Invalid config space offset"))
  else (overlay (config.drop offset.toNat) data, .ok ())

/-- What a read of `readConfigSpace` copies to the front of the buffer. -/
theorem readConfigSpace_data (config : List UInt8) (offset : UInt64) (data : List UInt8) :
    (readConfigSpace config offset data).1 = overlay (config.drop offset.toNat) data := by
  unfold readConfigSpace
  split
  · next h => rw [List.drop_eq_nil_of_le h, overlay_nil]
  · rfl

/-! ### Feature bits -/

/-- `VIRTIO_F_VERSION_1`. -/
def virtioFVersion1 : UInt64 := (1 : UInt64) <<< 32

/-- `VIRTIO_CONSOLE_F_SIZE`, a bit number. -/
def virtioConsoleFSize : UInt64 := 0

/-- `VIRTIO_BLK_F_RO`. -/
def virtioBlkFRo : UInt64 := (1 : UInt64) <<< 5

/-- `VIRTIO_BLK_F_BLK_SIZE`. -/
def virtioBlkFBlkSize : UInt64 := (1 : UInt64) <<< 6

/-- `VIRTIO_BLK_F_FLUSH`. -/
def virtioBlkFFlush : UInt64 := (1 : UInt64) <<< 9

/-- `VIRTIO_BLK_F_TOPOLOGY`. -/
def virtioBlkFTopology : UInt64 := (1 : UInt64) <<< 10

/-- `VIRTIO_NET_F_MAC`, a bit number. -/
def virtioNetFMac : UInt64 := 5

/-- `VIRTIO_NET_F_STATUS`, a bit number. -/
def virtioNetFStatus : UInt64 := 16

/-! ### Console -/

/-- The bytes of a `ConsoleConfig`. -/
def ConsoleConfig.toBytes (c : ConsoleConfig) : List UInt8 :=
  leBytes 2 c.cols.toNat ++ leBytes 2 c.rows.toNat ++ leBytes 4 c.maxNrPorts.toNat ++
    leBytes 4 c.emergWr.toNat

/-- The size of a `ConsoleConfig`. -/
@[simp] theorem ConsoleConfig.length_toBytes (c : ConsoleConfig) : c.toBytes.length = 12 := by
  simp only [ConsoleConfig.toBytes, List.length_append, length_leBytes]

/-- `VirtioConsole::read_config`. -/
def VirtioConsole.readConfig (dev : VirtioConsole Q) : UInt64 → List UInt8 →
    List UInt8 × Except HypervisorError Unit :=
  readConfigSpace dev.configSpace.toBytes

/-- `VirtioConsole::get_features`. -/
def VirtioConsole.getFeatures (_dev : VirtioConsole Q) : UInt64 :=
  (1 : UInt64) <<< virtioConsoleFSize

/-! ### Block -/

/-- The geometry in a `BlockConfig`. -/
structure BlockGeometry where
  cylinders : UInt16
  heads : UInt8
  sectors : UInt8

/-- The topology in a `BlockConfig`. -/
structure BlockTopology where
  physicalBlockExp : UInt8
  alignmentOffset : UInt8
  minIoSize : UInt16
  optIoSize : UInt32

/-- The configuration struct of the block device, in the order of its fields in memory. -/
structure BlockConfig where
  capacity : UInt64
  sizeMax : UInt32
  segMax : UInt32
  geometry : BlockGeometry
  blockSize : UInt32
  topology : BlockTopology
  writeback : UInt8
  unused : Vector UInt8 3
  maxDiscardSectors : UInt32
  maxDiscardSeg : UInt32
  discardSectorAlignment : UInt32
  maxWriteZeroesSectors : UInt32
  maxWriteZeroesSeg : UInt32
  writeZeroesMayUnmap : UInt8
  unused2 : Vector UInt8 3

/-- The bytes of a `BlockGeometry`. -/
def BlockGeometry.toBytes (g : BlockGeometry) : List UInt8 :=
  leBytes 2 g.cylinders.toNat ++ [g.heads, g.sectors]

/-- The bytes of a `BlockTopology`. -/
def BlockTopology.toBytes (t : BlockTopology) : List UInt8 :=
  [t.physicalBlockExp, t.alignmentOffset] ++ leBytes 2 t.minIoSize.toNat ++
    leBytes 4 t.optIoSize.toNat

/-- The bytes of a `BlockConfig`, which has no padding. -/
def BlockConfig.toBytes (c : BlockConfig) : List UInt8 :=
  leBytes 8 c.capacity.toNat ++ leBytes 4 c.sizeMax.toNat ++ leBytes 4 c.segMax.toNat ++
    c.geometry.toBytes ++ leBytes 4 c.blockSize.toNat ++ c.topology.toBytes ++
    [c.writeback] ++ c.unused.toList ++ leBytes 4 c.maxDiscardSectors.toNat ++
    leBytes 4 c.maxDiscardSeg.toNat ++ leBytes 4 c.discardSectorAlignment.toNat ++
    leBytes 4 c.maxWriteZeroesSectors.toNat ++ leBytes 4 c.maxWriteZeroesSeg.toNat ++
    [c.writeZeroesMayUnmap] ++ c.unused2.toList

/-- The size of a `BlockConfig`. -/
@[simp] theorem BlockConfig.length_toBytes (c : BlockConfig) : c.toBytes.length = 60 := by
  simp only [BlockConfig.toBytes, BlockGeometry.toBytes, BlockTopology.toBytes,
    List.length_append, length_leBytes, List.length_cons, List.length_nil, Vector.length_toList]

/-- The configuration that `read_config` builds. The capacity is in blocks. -/
def VirtioBlock.blockConfig (dev : VirtioBlock Q F) : BlockConfig where
  capacity := dev.diskSize / dev.blockSize.toUInt64
  sizeMax := 131072
  segMax := 32
  geometry := { cylinders := 0, heads := 16, sectors := 63 }
  blockSize := dev.blockSize
  topology := { physicalBlockExp := 0, alignmentOffset := 0, minIoSize := 512, optIoSize := 0 }
  writeback := 0
  unused := #v[0, 0, 0]
  maxDiscardSectors := 0
  maxDiscardSeg := 0
  discardSectorAlignment := 0
  maxWriteZeroesSectors := 0
  maxWriteZeroesSeg := 0
  writeZeroesMayUnmap := 0
  unused2 := #v[0, 0, 0]

/-- `VirtioBlock::read_config`. -/
def VirtioBlock.readConfig (dev : VirtioBlock Q F) : UInt64 → List UInt8 →
    List UInt8 × Except HypervisorError Unit :=
  readConfigSpace dev.blockConfig.toBytes

/-- `VirtioBlock::get_features`. -/
def VirtioBlock.getFeatures (dev : VirtioBlock Q F) : UInt64 :=
  let features := virtioFVersion1 ||| virtioBlkFBlkSize ||| virtioBlkFFlush ||| virtioBlkFTopology
  if dev.readOnly then features ||| virtioBlkFRo else features

/-! ### Network -/

/-- The configuration struct of the network device. -/
structure NetConfig where
  mac : Vector UInt8 6
  status : UInt16
  maxVirtqueuePairs : UInt16
  mtu : UInt16

/-- The bytes of a `NetConfig`. -/
def NetConfig.toBytes (c : NetConfig) : List UInt8 :=
  c.mac.toList ++ leBytes 2 c.status.toNat ++ leBytes 2 c.maxVirtqueuePairs.toNat ++
    leBytes 2 c.mtu.toNat

/-- The size of a `NetConfig`. -/
@[simp] theorem NetConfig.length_toBytes (c : NetConfig) : c.toBytes.length = 12 := by
  simp only [NetConfig.toBytes, List.length_append, length_leBytes, Vector.length_toList]

/-- The configuration that `read_config` builds. -/
def VirtioNet.netConfig (dev : VirtioNet Q S) : NetConfig where
  mac := dev.localMac
  status := 1
  maxVirtqueuePairs := 1
  mtu := 1500

/-- `VirtioNet::read_config`. -/
def VirtioNet.readConfig (dev : VirtioNet Q S) : UInt64 → List UInt8 →
    List UInt8 × Except HypervisorError Unit :=
  readConfigSpace dev.netConfig.toBytes

/-- `u64::wrapping_shl`: the shift is taken modulo 64. -/
def wrappingShl (x : UInt64) (n : UInt32) : UInt64 :=
  x <<< (n.toUInt64 % 64)

/-- `VIRTIO_F_VERSION_1` is a mask in the source and is shifted as if it were a bit number:
cut to 32 bits it is zero, so that bit 0 is set in place of bit 32. -/
def VirtioNet.getFeatures (_dev : VirtioNet Q S) : UInt64 :=
  wrappingShl 1 virtioFVersion1.toUInt32 ||| wrappingShl 1 virtioNetFMac.toUInt32 |||
    wrappingShl 1 virtioNetFStatus.toUInt32

/-! ### File system -/

/-- The file system device has no configuration space and answers with zeros. -/
def VirtioFs.readConfig (_dev : VirtioFs) (_offset : UInt64) (data : List UInt8) :
    List UInt8 × Except HypervisorError Unit :=
  (List.replicate data.length 0, .ok ())

/-- `VirtioFs::get_features`. -/
def VirtioFs.getFeatures (_dev : VirtioFs) : UInt64 :=
  (1 : UInt64) <<< 0 ||| (1 : UInt64) <<< 32

/-! ### Every device -/

/-- `device_type`. -/
def VirtioDevice.deviceType : VirtioDevice Q F S → UInt32
  | .console _ => 3
  | .block _ => 2
  | .net _ => 1
  | .fs _ => 26

/-- `get_features` of whichever device it is. -/
def VirtioDevice.getFeatures : VirtioDevice Q F S → UInt64
  | .console dev => dev.getFeatures
  | .block dev => dev.getFeatures
  | .net dev => dev.getFeatures
  | .fs dev => dev.getFeatures

/-- Only the file system device keeps what was acknowledged; the others at most log it. -/
def VirtioDevice.setAckedFeatures (features : UInt64) : VirtioDevice Q F S → VirtioDevice Q F S
  | .fs dev => .fs { dev with ackedFeatures := features }
  | dev => dev

/-- `read_config` of whichever device it is. -/
def VirtioDevice.readConfig : VirtioDevice Q F S → UInt64 → List UInt8 →
    List UInt8 × Except HypervisorError Unit
  | .console dev => dev.readConfig
  | .block dev => dev.readConfig
  | .net dev => dev.readConfig
  | .fs dev => dev.readConfig

/-- The queues of a device; those of the file system device belong to its backend. -/
def VirtioDevice.queues : VirtioDevice Q F S → List Q
  | .console dev => dev.config.queues
  | .block dev => dev.config.queues
  | .net dev => dev.config.queues
  | .fs _ => []

/-- `get_queues`, with `max_size` of the queues given. -/
def VirtioDevice.getQueues (maxSize : Q → UInt16) (dev : VirtioDevice Q F S) : List UInt16 :=
  match dev with
  | .fs _ => [256]
  | dev => dev.queues.map maxSize

/-- `get_interrupt_status`: no device tells whether it has raised an interrupt. -/
def VirtioDevice.getInterruptStatus (_dev : VirtioDevice Q F S) : UInt32 := 0

/-- How many bytes a configuration read at this offset puts in a buffer of `n` bytes. -/
def VirtioDevice.configReach (dev : VirtioDevice Q F S) (offset n : ℕ) : ℕ :=
  match dev with
  | .console _ => 12 - offset
  | .block _ => 60 - offset
  | .net _ => 12 - offset
  | .fs _ => n

/-- A configuration read copies bytes that do not depend on the buffer to its front. -/
theorem VirtioDevice.readConfig_data (dev : VirtioDevice Q F S) (offset : UInt64) (n : ℕ) :
    ∃ src : List UInt8, src.length = dev.configReach offset.toNat n ∧
      ∀ data : List UInt8, data.length = n →
        (dev.readConfig offset data).1 = overlay src data := by
  cases dev with
  | console dev =>
      refine ⟨dev.configSpace.toBytes.drop offset.toNat, ?_, fun data _ => ?_⟩
      · rw [List.length_drop, ConsoleConfig.length_toBytes, configReach]
      · rw [readConfig, VirtioConsole.readConfig, readConfigSpace_data]
  | block dev =>
      refine ⟨dev.blockConfig.toBytes.drop offset.toNat, ?_, fun data _ => ?_⟩
      · rw [List.length_drop, BlockConfig.length_toBytes, configReach]
      · rw [readConfig, VirtioBlock.readConfig, readConfigSpace_data]
  | net dev =>
      refine ⟨dev.netConfig.toBytes.drop offset.toNat, ?_, fun data _ => ?_⟩
      · rw [List.length_drop, NetConfig.length_toBytes, configReach]
      · rw [readConfig, VirtioNet.readConfig, readConfigSpace_data]
  | fs dev =>
      refine ⟨List.replicate n 0, List.length_replicate, fun data hlen => ?_⟩
      have hle : data.length ≤ (List.replicate n (0 : UInt8)).length := by
        rw [List.length_replicate]
        omega
      rw [readConfig, VirtioFs.readConfig, overlay_of_le hle, hlen, List.take_replicate,
        Nat.min_self]

end MoVm
