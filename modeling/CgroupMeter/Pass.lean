import CgroupMeter.Container.HostProcess
import CgroupMeter.Host.Task
import CgroupMeter.Metrics.Json
import CgroupMeter.Sample.Fetch
import CgroupMeter.Sampling.Basic
import CgroupMeter.Settings
import CgroupMeter.Store.File

/-!
# One pass over the processes of a host

A pass opens the sample store, samples each named process in turn, gives one
line of output for each sample, and saves the store once at the end.  A
process that cannot be sampled is reported and has no line.
-/

namespace CgroupMeter

/-- Why the line of a sample cannot be given. -/
inductive LineError where
  /-- The sample is from before the start of 1970, which no line can tell. -/
  | undated
  /-- The output does not take the line. -/
  | refused (cause : OsError)
  deriving DecidableEq

/-- The wording of a line that cannot be given. -/
def LineError.message : LineError → String
  | .undated => Time.unwritable
  | .refused cause => cause.message

/-- Why a pass fails as a whole. -/
inductive PassError where
  | layout (error : FetchError)
  | store (error : StoreError)
  /-- A line cannot be given, for whatever cause. -/
  | unwritable {error : LineError}
  deriving DecidableEq

namespace PassError

/-- The failure of a pass for a line that cannot be given. -/
abbrev line (error : LineError) : PassError :=
  @unwritable error

/-- The wording of a failed pass. -/
def message : PassError → String
  | .layout error => error.message
  | .store error => error.message
  | .line error => error.message

end PassError

/-- The host whose processes are sampled. -/
structure SampledHost where
  root : Path
  layout : GroupLayout

namespace SampledHost

variable {Store : Type} [SampleStore Store]

/-- Answer a sampling request from the host's files and a store, given the
store before it. -/
def answer (host : SampledHost) (asked : SamplingRequest) (store : Store) :
    Task (asked.Answer × Store) :=
  match asked with
  | .inspect name => do
      let now ← Task.readClock
      let inspection ←
        Task.ofInquiry (HostProcess.inspect host.root name now)
      return (inspection, store)
  | .fetch inspection => do
      let now ← Task.readClock
      let raw ←
        Task.ofInquiry (RawSample.fetch host.layout host.root now inspection)
      return (raw, store)
  | .readClock => do
      let now ← Task.readClock
      return (now, store)
  | .find key => return (.ok (SampleStore.find? store key), store)
  | .put key sample => do
      let now ← Task.readClock
      return (.ok (), SampleStore.put store now key sample)
  | .erase key => return (.ok (), SampleStore.erase store key)
  | .report made => do
      Task.report made.level made.text
      return ((), store)

/-- Run a sampling program on the host and a store. -/
def run {α : Type} (host : SampledHost) (program : Sampling α)
    (store : Store) : Task (α × Store) :=
  (Program.runIn (m := StateT Store Task) host.answer program).run store

end SampledHost

namespace Pass

/-- Give the line of a sample.  A sample without one is given as far as it
goes. -/
def emitLine (sample : MetricsSample) : Task (Except PassError Unit) := do
  let (bytes, complete) := sample.print
  let line := if complete then bytes ++ [Text.newline] else bytes
  match ← Task.emit line with
  | .error cause => return .error (.line (.refused cause))
  | .ok () =>
      if complete then return .ok ()
      else return .error (.line .undated)

/-- Give the line of a process, or report why there is none. -/
def conclude (name : String) (result : Except SamplingError MetricsSample) :
    Task (Except PassError Unit) := do
  match result with
  | .ok sample => emitLine sample
  | .error error => do
      if error.isLifecycle then Task.report .info error.message
      else Task.report .error s!"Failed to sample `{name}`: {error.message}"
      return .ok ()

/-- Sample the named processes in turn.  Yields the store after them. -/
def sampleAll {Store : Type} [SampleStore Store] (host : SampledHost)
    (remembered : Duration) :
    List String → Store → Task (Except PassError Store)
  | [], store => return .ok store
  | name :: rest, store => do
      let (result, after) ← host.run (Sampling.sample remembered name) store
      match ← conclude name result with
      | .error error => return .error error
      | .ok () => sampleAll host remembered rest after

/-- The layout that is set, or else the one that the host has. -/
def findLayout (settings : Settings) :
    Inquiry (Except FetchError GroupLayout) :=
  match settings.layout with
  | some layout => return .ok layout
  | none => GroupLayout.detect settings.root

/-- Sample the named processes into an opened store and save it. -/
def sampleInto (settings : Settings) (layout : GroupLayout)
    (names : List String) (store : FileStore) :
    Task (Except PassError Unit) := do
  Task.ofInquiry (RawSample.reportLayout layout settings.root)
  let host : SampledHost := ⟨settings.root, layout⟩
  match ← sampleAll host settings.remembered names store with
  | .error error => return .error error
  | .ok after =>
      let (_, saved) ← after.save
      return saved.mapError .store

/-- One pass over the named processes. -/
def run (settings : Settings) (names : List String) :
    Task (Except PassError Unit) := do
  Task.report .debug s!"Host root: {settings.root.text}"
  match ← Task.ofInquiry (findLayout settings) with
  | .error error => return .error (.layout error)
  | .ok layout => do
      Task.report .debug s!"Cgroup version: {layout.versionName}"
      let opened ← Task.ofInquiry
        (FileStore.openAt settings.storePath settings.lifetime)
      match opened with
      | .error error => return .error (.store error)
      | .ok store => sampleInto settings layout names store

end Pass

end CgroupMeter
