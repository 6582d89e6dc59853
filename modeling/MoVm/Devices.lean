import MoVm.Block

/-!
# The Other Devices and the MMIO Transport

The constructors of the console, network and file system devices (`virtio/console.rs`,
`virtio/net.rs`, `virtio/fs.rs`) and the wrapper `VirtioMmioDevice` of `virtio/mmio.rs`,
which gives a device its window of guest addresses.

A constructor calls into the host several times and each call may fail. `AttachHost` is
the host as one such constructor meets it: what every call it can make answers. The clone
of guest memory a device keeps is a handle on the one memory of the machine; nothing in
this module reads through it.
-/

open Lib

namespace MoVm

/-! ### The host a constructor meets -/

/-- What the calls of a device constructor answer, for disk files of type `F` and sockets
of type `S`. -/
structure AttachHost (F S : Type) where
  /-- The disk image files. -/
  disk : HostFile F
  /-- The successive calls of `EventFd::new`. -/
  eventFdNew : ℕ → Except String EventFd
  /-- `str::parse::<SocketAddr>`; only whether it fails matters. -/
  parseSocketAddr : String → Except String Unit
  /-- `UdpSocket::bind`. -/
  bind : String → Except String S
  /-- `socket.set_nonblocking(true)`. -/
  setNonblocking : S → Except String S
  /-- `getrandom` into a buffer of six bytes. -/
  getrandom : Except String (Vector UInt8 6)
  /-- `path.exists()`. -/
  pathExists : String → Bool
  createDirAll : String → Except String Unit
  /-- The owner and the group in `fs::metadata(path)`. -/
  metadata : String → Except String (UInt32 × UInt32)

variable {Q C F S : Type} (vq : VirtioQueue Q C) (host : AttachHost F S)

/-! ### Console -/

/-- `ConsoleConfig`. -/
structure ConsoleConfig where
  cols : UInt16
  rows : UInt16
  maxNrPorts : UInt32
  emergWr : UInt32
deriving DecidableEq

/-- The console device. Its output stream is passed to the functions that write to it. -/
structure VirtioConsole (Q : Type) where
  config : VirtioDeviceConfig Q
  configSpace : ConsoleConfig

/-- `VirtioConsole::new`: two queues, a terminal of 80 by 24. It has no way to fail. -/
def VirtioConsole.new (mem : GuestMemory) (guestMem : UInt64) (irq : UInt32) :
    Except HypervisorError (VirtioConsole Q) :=
  .ok
    { config := VirtioDeviceConfig.new vq (host.eventFdNew 0) mem guestMem irq 2
      configSpace := { cols := 80, rows := 24, maxNrPorts := 1, emergWr := 0 } }

/-! ### Network -/

/-- The network device: a socket, and the address of the peer if it has one. -/
structure VirtioNet (Q S : Type) where
  config : VirtioDeviceConfig Q
  socket : S
  localMac : Vector UInt8 6
  peerAddr : Option String

/-- `VirtioNet::new`. The address is random but for its first byte. -/
def VirtioNet.new (mem : GuestMemory) (guestMem : UInt64) (irq : UInt32)
    (localAddr : String) (peerAddr : Option String) :
    Except HypervisorError (VirtioNet Q S) := do
  let socket ← (host.bind localAddr).mapError fun e =>
    .ioError ("Failed to bind socket: " ++ e)
  let socket ← (host.setNonblocking socket).mapError fun e =>
    .ioError ("Failed to set non-blocking: " ++ e)
  match peerAddr with
  | none => pure ()
  | some addr =>
      (host.parseSocketAddr addr).mapError fun e => .ioError ("Invalid peer address: " ++ e)
  let config := VirtioDeviceConfig.new vq (host.eventFdNew 0) mem guestMem irq 2
  let mac ← host.getrandom.mapError fun e =>
    .ioError ("Failed to generate MAC address: " ++ e)
  return { config, socket, localMac := mac.set 0 0x02, peerAddr }

/-! ### File system -/

/-- What a user or a group may do. -/
structure AclEntry where
  uid : UInt32
  gid : UInt32
  permissions : UInt32
deriving DecidableEq

/-- The access list of a path: its owner and group, and further entries. -/
structure Acl where
  owner : UInt32
  group : UInt32
  entries : List AclEntry
deriving DecidableEq

/-- A component of a path. `..` is one with a name, since it is equal only to itself. -/
inductive PathComponent
  | rootDir
  | curDir
  | normal (name : List Char)
deriving DecidableEq

/-- `Path::components`, by which paths are compared: further separators, and a `.` but for one at
the beginning, make no difference. -/
def Path.components (path : String) : List PathComponent :=
  let parts := path.toList.splitOn '/'
  let first :=
    if path.toList.head? = some '/' then [PathComponent.rootDir]
    else if parts.head? = some ['.'] then [PathComponent.curDir]
    else []
  first ++ (parts.filter fun part => part ≠ [] ∧ part ≠ ['.']).map .normal

/-- The state of the shared directory; the access lists are kept by path. -/
structure FsState where
  root : String
  acls : List (List PathComponent × Acl)
  mmioRegion : Option (UInt64 × UInt64)
  mmioData : List UInt8
deriving DecidableEq

/-- `FsState::new`: the directory is created when it is missing, and gets an access list
with its owner and group. -/
def FsState.new (root : String) (mmioRegion : Option (UInt64 × UInt64)) :
    Except HypervisorError FsState := do
  if !host.pathExists root then
    (host.createDirAll root).mapError .ioError
  let mmioData :=
    match mmioRegion with
    | some (_, size) => List.replicate size.toNat 0
    | none => []
  let (uid, gid) ← (host.metadata root).mapError .ioError
  return { root, acls := [(Path.components root, { owner := uid, group := gid, entries := [] })],
           mmioRegion, mmioData }

/-- A state is made when the directory is there or can be created, and can be looked at. -/
theorem FsState.new_ok_iff {root : String} {mmioRegion : Option (UInt64 × UInt64)} {s : FsState} :
    FsState.new host root mmioRegion = .ok s ↔
      (host.pathExists root = false → host.createDirAll root = .ok ()) ∧
        ∃ owner, host.metadata root = .ok owner ∧
          s = { root
                acls := [(Path.components root,
                  { owner := owner.1, group := owner.2, entries := [] })]
                mmioRegion
                mmioData := (mmioRegion.map fun region =>
                  List.replicate region.2.toNat 0).getD [] } := by
  have hdata : (match mmioRegion with
      | some (_, size) => List.replicate size.toNat (0 : UInt8)
      | none => []) =
      (mmioRegion.map fun region => List.replicate region.2.toNat 0).getD [] := by
    cases mmioRegion <;> rfl
  simp only [FsState.new, hdata]
  cases host.pathExists root with
  | true =>
      simp only [Bool.not_true, Bool.false_eq_true, if_false, bind_ok_iff, mapError_ok_iff,
        reduceCtorEq, false_implies, true_and]
      exact exists_congr fun owner => and_congr_right fun _ => pure_ok_iff
  | false =>
      simp only [Bool.not_false, if_true, bind_ok_iff, mapError_ok_iff, true_implies]
      refine ⟨fun ⟨(), hdir, owner, hmeta, hs⟩ => ⟨hdir, owner, hmeta, pure_ok_iff.mp hs⟩, ?_⟩
      exact fun ⟨hdir, owner, hmeta, hs⟩ => ⟨(), hdir, owner, hmeta, pure_ok_iff.mpr hs⟩

/-- The file system device. -/
structure VirtioFs where
  state : FsState
  mem : GuestMemory
  queueEvts : EventFd × EventFd
  irqTrigger : EventFd
  features : UInt64
  ackedFeatures : UInt64

/-- `VirtioFs::new`. Its two event file descriptors come after the one it is given. -/
def VirtioFs.new (root : String) (mem : GuestMemory) (irqTrigger : EventFd) :
    Except HypervisorError VirtioFs := do
  let state ← FsState.new host root none
  let evt0 ← (host.eventFdNew 1).mapError .ioError
  let evt1 ← (host.eventFdNew 2).mapError .ioError
  return { state, mem, queueEvts := (evt0, evt1), irqTrigger, features := 0,
           ackedFeatures := 0 }

/-! ### The transport -/

/-- `Box<dyn VirtioDevice>`. -/
inductive VirtioDevice (Q F S : Type)
  | console (device : VirtioConsole Q)
  | block (device : VirtioBlock Q F)
  | net (device : VirtioNet Q S)
  | fs (device : VirtioFs)

/-- A device behind a window of guest addresses. -/
structure VirtioMmioDevice (Q F S : Type) where
  device : VirtioDevice Q F S
  baseAddr : UInt64
  size : UInt64
  queueSel : UInt32

/-- `VirtioMmioDevice::new`: every window has one page. -/
def VirtioMmioDevice.new (device : VirtioDevice Q F S) (baseAddr : UInt64) :
    VirtioMmioDevice Q F S where
  device := device
  baseAddr := baseAddr
  size := 0x1000
  queueSel := 0

/-- A range of guest addresses. -/
structure MmioWindow where
  base : UInt64
  size : UInt64
deriving DecidableEq

/-- The window of a device. -/
def VirtioMmioDevice.window (dev : VirtioMmioDevice Q F S) : MmioWindow where
  base := dev.baseAddr
  size := dev.size

/-- The test of the dispatch loop: the address lies in the window. -/
def MmioWindow.Contains (w : MmioWindow) (addr : UInt64) : Prop :=
  addr ≥ w.base ∧ addr < w.base + w.size

instance (w : MmioWindow) (addr : UInt64) : Decidable (w.Contains addr) :=
  inferInstanceAs (Decidable (_ ∧ _))

/-- No address lies in both windows. -/
def MmioWindow.Disjoint (w w' : MmioWindow) : Prop :=
  ∀ addr, ¬(w.Contains addr ∧ w'.Contains addr)

end MoVm
