import Tvd.Model.Daemon
import Tvd.Hal.Table
import Tvd.Hal.Operations
import Tvd.Hal.Streams
import Tvd.Hal.Closings
import Tvd.Hal.Device
import Tvd.Service.Streams
import Tvd.Service.Closings
import Tvd.Dtv.Numerals
import Tvd.Hal.Queries
import Tvd.Dtv.TunerIds
import Tvd.Service.Control
import Tvd.Service.Device
import Tvd.Service.Handles
import Tvd.Service.Addressing
import Tvd.Io.Queue
import Tvd.Io.Framing
import Tvd.Wire.Appends
import Tvd.Service.SourceReply
import Tvd.Service.TunersReply
import Tvd.Wire.Formats
import Tvd.Wire.Records
import Tvd.Wire.Tuners
import Tvd.Service.Answers
import Tvd.Service.Exchange
import Tvd.Service.Notifications
import Tvd.Service.Registrations
import Tvd.Hal.Rules
import Tvd.Service.Unregistered
import Tvd.Service.Buffers
import Tvd.Hal.Arrivals
import Tvd.Dtv.Capacity
import Tvd.Service.DevicePointer
import Tvd.Service.Connection
import Tvd.Service.SourceFailure
import Tvd.Exec.Local
import Tvd.Hal.Independence
import Tvd.Heap.Programs
import Tvd.Exec.Trace
import Tvd.Wire.Languages
import Tvd.Wire.Calls
import Tvd.Wire.Programs
import Tvd.Memory.Bytes
import Tvd.Model.Ancillary
import Tvd.Wire.Ancillary
import Tvd.Service.Packets
import Tvd.Service.Initialization
import Tvd.Service.Statuses
import Tvd.Dtv.Allocations
import Tvd.Service.InTree
import Tvd.Service.Releases
import Tvd.Service.Allocations
import Tvd.Model.Sockaddr
import Tvd.Io.Sockaddr
import Tvd.Ledger.Lifetime
import Tvd.Model.CommandLine
import Tvd.Io.Logged
import Tvd.Model.Process
import Tvd.Process.CommandLine
import Tvd.Process.Opening
import Tvd.Service.Rules
import Tvd.Process.Loop
import Tvd.Process.Runs
import Tvd.Exec.Acceptor
import Tvd.Spec.Server
import Tvd.Hal.Devices
import Tvd.Service.Requests
import Tvd.Service.Refinement
import Tvd.Service.Delivery
import Tvd.Service.Polling
import Tvd.Service.Leaks
import Tvd.Exec.Returns
import Tvd.Service.Crashes
import Tvd.Service.Safety
import Tvd.Process.Lingering
import Tvd.Service.Scans
