import MoVm.Lib.Bytes
import MoVm.Lib.Loop
import MoVm.Lib.Chunks
import MoVm.Lib.Paging
import MoVm.Lib.Reader
import MoVm.Lib.Buffer
import MoVm.Lib.Trace
import MoVm.Lib.Simulation
import MoVm.Lib.Interleaving
import MoVm.Lib.Fields
import MoVm.Lib.RealMode
import MoVm.Lib.ModeSwitch
import MoVm.Host
import MoVm.GuestMemory
import MoVm.Virtqueue
import MoVm.Block
import MoVm.BlockRun
import MoVm.BlockChain
import MoVm.BlockFlat
import MoVm.BlockPayload
import MoVm.Vcpu
import MoVm.Snapshot
import MoVm.SnapshotFormat
import MoVm.Devices
import MoVm.KernelLoader
import MoVm.Machine
import MoVm.FsMmio
import MoVm.FsBackend
import MoVm.FsAcl
import MoVm.FsStore
import MoVm.Boot
import MoVm.Startup
import MoVm.Bootloader
import MoVm.KernelImage
import MoVm.PageTables
import MoVm.BootParams
import MoVm.KernelPanics
import MoVm.SnapshotRestore
import MoVm.RestoreArithmetic
import MoVm.BlockRequest
import MoVm.SnapshotJson
import MoVm.SnapshotGrammar
import MoVm.SnapshotDocuments
import MoVm.ConfigSpace
import MoVm.ConsoleNet
import MoVm.Transport
import MoVm.RunLoop
import MoVm.DriverView
import MoVm.Transmit
import MoVm.BlockCompletion
import MoVm.BlockFaults
import MoVm.Receive
import MoVm.Interrupts
import MoVm.BiosCalls
import MoVm.Threads
import MoVm.MachineRun
import MoVm.RegisterFile
import MoVm.MachineDevices
import MoVm.Program
import MoVm.BootState
import MoVm.BootSector
import MoVm.BootRun
