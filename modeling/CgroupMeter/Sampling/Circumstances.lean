import CgroupMeter.Sampling.Basic
import CgroupMeter.Store.Basic

/-!
# Sampling under given circumstances

One call of the sampler meets an inspector, a source of raw samples, a clock
and a store, each of which may fail.  The circumstances of a call fix what
they answer, so that the call is a function of them and the store.
-/

namespace CgroupMeter

/-- What one call of the sampler meets. -/
structure Circumstances where
  /-- What inspecting the container yields. -/
  inspection : Except ContainerError Inspection
  /-- What taking a raw sample yields. -/
  raw : Except FetchError RawSample
  /-- What the clock shows. -/
  now : Time
  /-- Why looking up a stored sample fails, if it does. -/
  findFault : Option StoreError
  /-- Why storing a sample fails, if it does. -/
  putFault : Option StoreError
  /-- Why dropping a stored sample fails, if it does. -/
  eraseFault : Option StoreError

/-- What a call of the sampler leaves behind: the store, and what it asked
for. -/
structure Aftermath (Store : Type) where
  store : Store
  asked : List SamplingRequest

namespace Circumstances

variable {Store : Type} [SampleStore Store]

/-- A store's answer to a request, and the store after it.  A request that
fails leaves the store as it was. -/
def serve {α : Type} (fault : Option StoreError) (value : α)
    (before after : Store) : Except StoreError α × Store :=
  match fault with
  | some error => (.error error, before)
  | none => (.ok value, after)

/-- Answer a request, given the store before it. -/
def answer (circumstances : Circumstances) (asked : SamplingRequest)
    (store : Store) : asked.Answer × Store :=
  match asked with
  | .inspect _ => (circumstances.inspection, store)
  | .fetch _ => (circumstances.raw, store)
  | .readClock => (circumstances.now, store)
  | .find key =>
      serve circumstances.findFault (SampleStore.find? store key) store store
  | .put key sample =>
      serve circumstances.putFault () store
        (SampleStore.put store circumstances.now key sample)
  | .erase key =>
      serve circumstances.eraseFault () store (SampleStore.erase store key)
  | .report _ => ((), store)

/-- Answer a request and take note of it. -/
def answerNoting (circumstances : Circumstances) (asked : SamplingRequest)
    (state : Aftermath Store) : asked.Answer × Aftermath Store :=
  let (given, store) := circumstances.answer asked state.store
  (given, ⟨store, state.asked ++ [asked]⟩)

/-- Run a sampling program on a store. -/
def run {α : Type} (circumstances : Circumstances) (program : Sampling α)
    (store : Store) : α × Aftermath Store :=
  (Program.runIn (m := StateM (Aftermath Store)) circumstances.answerNoting
    program).run ⟨store, []⟩

end Circumstances

/-- The reports among the requests of a call. -/
def SamplingRequest.report? : SamplingRequest → Option Report
  | .report made => some made
  | _ => none

/-- A request is one to take a raw sample. -/
def SamplingRequest.isFetch : SamplingRequest → Bool
  | .fetch _ => true
  | _ => false

end CgroupMeter
