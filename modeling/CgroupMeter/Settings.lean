import CgroupMeter.Sample.Error
import CgroupMeter.Text.Numeral
import CgroupMeter.Time

/-!
# Settings

The settings of a run come from variables of the environment.  A variable that
is unset or blank leaves its setting at the default.  Durations are whole
numbers of seconds.
-/

namespace CgroupMeter

/-- The settings of a run. -/
structure Settings where
  /-- Where the root of the host's files is visible. -/
  root : Path
  /-- The file of the sample store. -/
  storePath : Path
  /-- How long ended containers are remembered, zero for ever. -/
  remembered : Duration
  /-- How long a stored sample is kept, for ever without it. -/
  lifetime : Option Duration
  /-- The layout of control groups; it is found out without it. -/
  layout : Option GroupLayout
  deriving DecidableEq

/-- Why settings cannot be made out. -/
inductive SettingsError where
  /-- A variable is no number of seconds. -/
  | invalidSeconds (name value : String) (cause : NumeralError)
  /-- A variable is no version of control groups. -/
  | invalidVersion (name : String) (cause : FetchError)
  deriving DecidableEq

/-- The wording of settings that cannot be made out. -/
def SettingsError.message : SettingsError → String
  | .invalidSeconds name value cause =>
      s!"environment variable `{name}` must be a number of seconds, got `{value}`: {cause.message}"
  | .invalidVersion name cause =>
      s!"environment variable `{name}`: {cause.message}"

namespace Settings

/-- The variable of the host's root. -/
def rootVariable : String := "ROOTFS_MOUNT_PATH"

/-- The variable of the store's file. -/
def storePathVariable : String := "SAMPLE_STORE_PATH"

/-- The variable of how long ended containers are remembered. -/
def rememberedVariable : String := "EXITED_CONTAINERS_TTL_SECS"

/-- The variable of how long stored samples are kept. -/
def lifetimeVariable : String := "SAMPLE_STORE_TTL_SECS"

/-- The variable of the version of control groups. -/
def versionVariable : String := "CGROUP_VERSION"

/-- The settings that hold when no variable is set. -/
def standard : Settings :=
  { root := ⟨"/"⟩
    storePath := ⟨"/tmp/cgroup-sampler/samples.json"⟩
    remembered := .ofSeconds 86400 0
    lifetime := some (.ofSeconds 3600 0)
    layout := none }

/-- A variable that is set to more than blanks. -/
def value? (environment : String → Option String) (name : String) :
    Option String :=
  (environment name).filter fun value => !Text.isBlankText value

/-- The duration that the value of a variable stands for. -/
def seconds (name value : String) : Except SettingsError Duration :=
  match Numeral.readUInt64 (Text.trim value) with
  | .ok seconds => .ok (.ofSeconds seconds.toNat 0)
  | .error cause => .error (.invalidSeconds name value cause)

/-- The duration that a variable sets, or a default. -/
def secondsOr (environment : String → Option String) (name : String)
    (standard : Duration) : Except SettingsError Duration :=
  match value? environment name with
  | none => .ok standard
  | some value => seconds name value

/-- The lifetime that a variable sets, or a default.  Zero is no lifetime. -/
def lifetimeOr (environment : String → Option String)
    (standard : Option Duration) :
    Except SettingsError (Option Duration) :=
  match value? environment lifetimeVariable with
  | none => .ok standard
  | some value =>
      (seconds lifetimeVariable value).map fun lifetime =>
        if lifetime.isZero then none else some lifetime

/-- The layout that a variable sets, if it is set. -/
def layoutOf (environment : String → Option String) :
    Except SettingsError (Option GroupLayout) :=
  match value? environment versionVariable with
  | none => .ok none
  | some value =>
      match GroupLayout.ofVersion value with
      | .ok layout => .ok (some layout)
      | .error cause => .error (.invalidVersion versionVariable cause)

/-- The path that a variable sets, or a default. -/
def pathOr (environment : String → Option String) (name : String)
    (standard : Path) : Path :=
  ((value? environment name).map Path.mk).getD standard

/-- The settings that variables make. -/
def ofVariables (environment : String → Option String) :
    Except SettingsError Settings := do
  let remembered ← secondsOr environment rememberedVariable standard.remembered
  let lifetime ← lifetimeOr environment standard.lifetime
  let layout ← layoutOf environment
  return {
    root := pathOr environment rootVariable standard.root
    storePath := pathOr environment storePathVariable standard.storePath
    remembered, lifetime, layout }

end Settings

end CgroupMeter
