import CgroupMeter.CommandLine
import CgroupMeter.Container.HostProcess
import CgroupMeter.Container.Id
import CgroupMeter.Container.Inspection
import CgroupMeter.Counter
import CgroupMeter.Decimal.Digits
import CgroupMeter.Decimal.Shortest
import CgroupMeter.Group.Location
import CgroupMeter.Group.Membership
import CgroupMeter.Group.StatFile
import CgroupMeter.Host.Error
import CgroupMeter.Host.FileTree
import CgroupMeter.Host.Inquiry
import CgroupMeter.Host.Task
import CgroupMeter.HostCpu
import CgroupMeter.Json.Basic
import CgroupMeter.Json.Byte
import CgroupMeter.Json.Parser
import CgroupMeter.Json.Printer
import CgroupMeter.Json.Real
import CgroupMeter.Json.Time
import CgroupMeter.KeyMap
import CgroupMeter.Main
import CgroupMeter.Metrics.Blkio
import CgroupMeter.Metrics.Cpu
import CgroupMeter.Metrics.Json
import CgroupMeter.Metrics.Memory
import CgroupMeter.Metrics.Rate
import CgroupMeter.Metrics.Sample
import CgroupMeter.Mount.Entry
import CgroupMeter.Mount.Table
import CgroupMeter.Pass
import CgroupMeter.Path
import CgroupMeter.Program
import CgroupMeter.Proofs.Counter
import CgroupMeter.Proofs.Decimal.Bound
import CgroupMeter.Proofs.Float.Bound
import CgroupMeter.Proofs.Group.Lookup
import CgroupMeter.Proofs.Group.Placement
import CgroupMeter.Proofs.Group.Rendering
import CgroupMeter.Proofs.Host.Directories
import CgroupMeter.Proofs.Host.Matching
import CgroupMeter.Proofs.Host.Progress
import CgroupMeter.Proofs.Host.Quiet
import CgroupMeter.Proofs.Host.Reading
import CgroupMeter.Proofs.Host.Running
import CgroupMeter.Proofs.Host.Walk
import CgroupMeter.Proofs.HostCpu
import CgroupMeter.Proofs.Json.Line
import CgroupMeter.Proofs.Json.Reread
import CgroupMeter.Proofs.Json.RoundTrip
import CgroupMeter.Proofs.Metrics.Exact
import CgroupMeter.Proofs.Metrics.Growth
import CgroupMeter.Proofs.Metrics.Layouts
import CgroupMeter.Proofs.Metrics.Swap
import CgroupMeter.Proofs.Metrics.SwapRange
import CgroupMeter.Proofs.Mount.Detection
import CgroupMeter.Proofs.Mount.Lines
import CgroupMeter.Proofs.Mount.Lookup
import CgroupMeter.Proofs.Pass.Account
import CgroupMeter.Proofs.Pass.Calls
import CgroupMeter.Proofs.Pass.Mirror
import CgroupMeter.Proofs.Pass.Restart
import CgroupMeter.Proofs.Pass.SampledHost
import CgroupMeter.Proofs.Path.Extension
import CgroupMeter.Proofs.Path.Segments
import CgroupMeter.Proofs.Program.Interleaving
import CgroupMeter.Proofs.Program.Within
import CgroupMeter.Proofs.Sample.Accounts
import CgroupMeter.Proofs.Sample.Containment
import CgroupMeter.Proofs.Sample.Faults
import CgroupMeter.Proofs.Sample.Fetchable
import CgroupMeter.Proofs.Sample.Reports
import CgroupMeter.Proofs.Sample.ValueFile
import CgroupMeter.Proofs.Sampling.Effect
import CgroupMeter.Proofs.Sampling.Expiry
import CgroupMeter.Proofs.Sampling.History
import CgroupMeter.Proofs.Sampling.Interleaving
import CgroupMeter.Proofs.Sampling.Outcome
import CgroupMeter.Proofs.Sampling.ThrottledSum
import CgroupMeter.Proofs.Sampling.Throttling
import CgroupMeter.Proofs.Stat.Blkio
import CgroupMeter.Proofs.Stat.BlkioTexts
import CgroupMeter.Proofs.Stat.Cpuset
import CgroupMeter.Proofs.Stat.Interfaces
import CgroupMeter.Proofs.Stat.KeyValue
import CgroupMeter.Proofs.Stat.KnownKeys
import CgroupMeter.Proofs.Stat.SingleValue
import CgroupMeter.Proofs.Store.Canonical
import CgroupMeter.Proofs.Store.Document
import CgroupMeter.Proofs.Store.FailedSave
import CgroupMeter.Proofs.Store.Lawful
import CgroupMeter.Proofs.Store.Opening
import CgroupMeter.Proofs.Store.Saving
import CgroupMeter.Proofs.Store.Settled
import CgroupMeter.Proofs.Store.TwoMaps
import CgroupMeter.Proofs.Text.Numeral
import CgroupMeter.Proofs.Text.Order
import CgroupMeter.Proofs.Text.Words
import CgroupMeter.Report
import CgroupMeter.Sample.Error
import CgroupMeter.Sample.Fetch
import CgroupMeter.Sample.Part
import CgroupMeter.Sample.Raw
import CgroupMeter.Sampling.Basic
import CgroupMeter.Sampling.Circumstances
import CgroupMeter.Sampling.Error
import CgroupMeter.Settings
import CgroupMeter.Stat.Blkio
import CgroupMeter.Stat.Cpu
import CgroupMeter.Stat.Cpuset
import CgroupMeter.Stat.Error
import CgroupMeter.Stat.KeyValue
import CgroupMeter.Stat.Memory
import CgroupMeter.Stat.Network
import CgroupMeter.Stat.SingleValue
import CgroupMeter.Store.Basic
import CgroupMeter.Store.Document
import CgroupMeter.Store.Error
import CgroupMeter.Store.File
import CgroupMeter.Store.Sample
import CgroupMeter.Text.Blank
import CgroupMeter.Text.Lines
import CgroupMeter.Text.Numeral
import CgroupMeter.Text.Quoted
import CgroupMeter.Text.Shown
import CgroupMeter.Text.Split
import CgroupMeter.Time
