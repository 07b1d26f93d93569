import GpuVirtmem.Lib.Run
import GpuVirtmem.VirtMem.Row
import GpuVirtmem.VirtMem.RowStep
import GpuVirtmem.VirtMem.System
import GpuVirtmem.VirtMem.HostCopy
import GpuVirtmem.VirtMem.Legend
import GpuVirtmem.Lib.CString
import GpuVirtmem.Lib.LittleEndian
import GpuVirtmem.VirtMem.KernelMap
import GpuVirtmem.VirtMem.Launch
import GpuVirtmem.VirtMem.KernelResult
import GpuVirtmem.Lib.Codec
import GpuVirtmem.Interposer.FatBinary
import GpuVirtmem.Interposer.FatRoundTrip
import GpuVirtmem.Interposer.FatBinary4
import GpuVirtmem.Remote.Method
import GpuVirtmem.Remote.Register
import GpuVirtmem.Remote.Packet
import GpuVirtmem.Backend.Handles
import GpuVirtmem.Lib.Handshake
import GpuVirtmem.Pager.Worker
import GpuVirtmem.Lib.Link
import GpuVirtmem.Remote.Server
import GpuVirtmem.Remote.Exchange
import GpuVirtmem.Remote.InStep
import GpuVirtmem.Sched.Table
import GpuVirtmem.Sched.FairShare
import GpuVirtmem.Sched.Control
import GpuVirtmem.Sched.Repayment
import GpuVirtmem.Sched.Registered
import GpuVirtmem.Sched.Counter
import GpuVirtmem.Sched.Replies
import GpuVirtmem.Sched.Bracket
import GpuVirtmem.Backend.Modules
import GpuVirtmem.Interposer.Forward
import GpuVirtmem.Interposer.HostVars
import GpuVirtmem.Pager.Owners
import GpuVirtmem.GlobalSched.LoadCount
import GpuVirtmem.Pager.Indices
import GpuVirtmem.GlobalSched.GetDevice
import GpuVirtmem.GlobalSched.Rounds
import GpuVirtmem.GlobalSched.Feedback
import GpuVirtmem.GlobalSched.Weights
import GpuVirtmem.Sched.Service
import GpuVirtmem.Remote.Batch
import GpuVirtmem.Remote.Broken
import GpuVirtmem.Remote.Sizes
import GpuVirtmem.Backend.Launches
import GpuVirtmem.Interposer.RegArgs
import GpuVirtmem.Remote.Registration
import GpuVirtmem.Lib.Linked
import GpuVirtmem.VirtMem.KernelRecord
import GpuVirtmem.Backend.Processes
import GpuVirtmem.Backend.Memcpy
import GpuVirtmem.Backend.Arguments
import GpuVirtmem.Backend.PageinRequests
import GpuVirtmem.Pager.Victims
import GpuVirtmem.Sched.Sweep
import GpuVirtmem.Sched.Slices
import GpuVirtmem.Lib.Mutex
import GpuVirtmem.Sched.Mutex
import GpuVirtmem.GlobalSched.Balance
import GpuVirtmem.GlobalSched.SecondBest
import GpuVirtmem.Sched.Priorities
import GpuVirtmem.Sched.Allocation
import GpuVirtmem.Pager.Requests
import GpuVirtmem.Pager.Selection
import GpuVirtmem.Backend.TableArgument
import GpuVirtmem.Interposer.DeviceMap
import GpuVirtmem.Interposer.SetDevice
import GpuVirtmem.Interposer.FatSize
import GpuVirtmem.Interposer.FatOffsets
import GpuVirtmem.Interposer.TableLength
import GpuVirtmem.Interposer.RegRoundTrip
import GpuVirtmem.Remote.Transfer
import GpuVirtmem.Lib.Layout
import GpuVirtmem.VirtMem.KernelBlock
import GpuVirtmem.Lib.Heap
import GpuVirtmem.Interposer.FatBlocks
import GpuVirtmem.Interposer.FatFree
import GpuVirtmem.Lib.Session
import GpuVirtmem.Remote.Session
import GpuVirtmem.Backend.Direct
import GpuVirtmem.Backend.Transparent
import GpuVirtmem.Backend.Startup
import GpuVirtmem.Backend.Isolation
import GpuVirtmem.Lib.Progress
import GpuVirtmem.Sched.AddQueue
import GpuVirtmem.Sched.Completion
import GpuVirtmem.Sched.Seized
import GpuVirtmem.Lib.Semaphore
import GpuVirtmem.Sched.LasNode
import GpuVirtmem.Sched.LasOnce
import GpuVirtmem.Sched.LasSettles
import GpuVirtmem.GlobalSched.Shares
