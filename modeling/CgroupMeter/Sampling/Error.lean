import CgroupMeter.Sample.Error
import CgroupMeter.Container.Inspection
import CgroupMeter.Store.Error

/-!
# Why a container is not sampled

A container is not sampled because its life has ended, or because one of the
steps of sampling it failed.
-/

namespace CgroupMeter

/-- Why a container is not sampled. -/
inductive SamplingError where
  | expired (id : ContainerId) (age : Duration)
  | unexpired (id : ContainerId)
  | inspect (error : ContainerError)
  | fetch (error : FetchError)
  | store (error : StoreError)
  deriving DecidableEq

namespace SamplingError

/-- The wording of why a container is not sampled. -/
def message : SamplingError → String
  | .expired id age =>
      s!"container `{id.text}` exited {age.text} ago and is expired"
  | .unexpired id => s!"container `{id.text}` has exited and is not expired yet"
  | .inspect error => s!"failed to inspect container: {error.message}"
  | .fetch error => error.message
  | .store error => s!"sample store failed: {error.message}"

/-- The container's life has ended; nothing failed. -/
def isLifecycle : SamplingError → Bool
  | .expired _ _ => true
  | .unexpired _ => true
  | _ => false

end SamplingError

end CgroupMeter
