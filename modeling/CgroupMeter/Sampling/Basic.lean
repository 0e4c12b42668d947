import CgroupMeter.Metrics.Sample
import CgroupMeter.Program
import CgroupMeter.Report
import CgroupMeter.Sampling.Error

/-!
# Sampling a container

To sample a container is to inspect it, take a raw sample, exchange the stored
sample for the new one, and derive the metrics from both.  A container that
has ended is not sampled; when it ended longer ago than it is remembered, its
stored sample is dropped.

Sampling is a program that asks for each of these steps, so that it can be put
to any inspector, any source of raw samples and any store, failing ones
included.
-/

namespace CgroupMeter

/-- What sampling a container asks for. -/
inductive SamplingRequest where
  | inspect (name : String)
  | fetch (inspection : Inspection)
  | readClock
  | find (key : String)
  | put (key : String) (sample : StoredSample)
  | erase (key : String)
  | report (report : Report)

/-- The answer to a request. -/
@[reducible]
def SamplingRequest.Answer : SamplingRequest → Type
  | .inspect _ => Except ContainerError Inspection
  | .fetch _ => Except FetchError RawSample
  | .readClock => Time
  | .find _ => Except StoreError (Option StoredSample)
  | .put _ _ => Except StoreError Unit
  | .erase _ => Except StoreError Unit
  | .report _ => Unit

/-- A program that samples. -/
abbrev Sampling := Program SamplingRequest SamplingRequest.Answer

namespace Sampling

/-- Ask one request. -/
def ask (asked : SamplingRequest) : Sampling asked.Answer :=
  Program.request asked

/-- Make a report. -/
def report (level : Level) (text : String) : Sampling Unit :=
  ask (.report ⟨level, text⟩)

/-- Drop the stored sample of a container.  A failure is only reported. -/
def forget (id : ContainerId) : Sampling Unit := do
  let dropped : Except StoreError Unit ← ask (.erase id.text)
  match dropped with
  | .ok () => return ()
  | .error error =>
      report .warn
        s!"Failed to delete sample of container `{id.text}`: {error.message}"

/-- How long ago a container ended, if it is no longer remembered. -/
def expiredAge? (remembered : Duration) (finishedAt now : Time) :
    Option Duration :=
  (now.since? finishedAt).filter fun age => remembered.nanos < age.nanos

/-- Why a container that has ended is not sampled.  Ended containers are
remembered for a time, or for ever if that time is zero or it is not known
when they ended. -/
def ended (remembered : Duration) (inspection : Inspection) :
    Sampling SamplingError := do
  let id := inspection.id
  match inspection.finishedAt with
  | none => return .unexpired id
  | some finishedAt =>
      if remembered.isZero then return .unexpired id
      else
        let now : Time ← ask .readClock
        match expiredAge? remembered finishedAt now with
        | none => return .unexpired id
        | some age => do
            report .debug
              s!"Container `{id.text}` exited {age.text} ago, dropping its sample"
            forget id
            return .expired id age

/-- Exchange the stored sample of a container for a new one.  Yields the
former one. -/
def exchange (key : String) (sample : StoredSample) :
    Sampling (Except StoreError (Option StoredSample)) := do
  let found : Except StoreError (Option StoredSample) ← ask (.find key)
  match found with
  | .error error => return .error error
  | .ok previous => do
      if previous.isNone then
        report .debug s!"No previous sample for container `{key}`"
      let stored : Except StoreError Unit ← ask (.put key sample)
      return stored.map fun () => previous

/-- Sample an inspected container that has not ended. -/
def sampleRunning (inspection : Inspection) :
    Sampling (Except SamplingError MetricsSample) := do
  let fetched : Except FetchError RawSample ← ask (.fetch inspection)
  match fetched with
  | .error error => return .error (.fetch error)
  | .ok raw =>
      match ← exchange inspection.id.text raw.stored with
      | .error error => return .error (.store error)
      | .ok previous => return .ok (.derive inspection raw previous)

/-- Sample the container of a name. -/
def sample (remembered : Duration) (name : String) :
    Sampling (Except SamplingError MetricsSample) := do
  let inspected : Except ContainerError Inspection ← ask (.inspect name)
  match inspected with
  | .error error => return .error (.inspect error)
  | .ok inspection =>
      if inspection.status = .exited then
        return .error (← ended remembered inspection)
      else sampleRunning inspection

end Sampling

end CgroupMeter
