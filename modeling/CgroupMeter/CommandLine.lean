import CgroupMeter.Pass

/-!
# The command line

The program is called with the numbers of the processes to sample and is set
by variables of its environment.  It ends with an exit code that tells whether
the pass succeeded.
-/

namespace CgroupMeter

/-- Why the program fails. -/
inductive CommandError where
  | usage
  | settings (error : SettingsError)
  | pass (error : PassError)
  deriving DecidableEq

/-- The wording of why the program fails. -/
def CommandError.message : CommandError → String
  | .usage => "usage: cgroup-sampler <pid>..."
  | .settings error => error.message
  | .pass error => error.message

namespace CommandLine

/-- Run the program with arguments and variables. -/
def run (arguments : List String) (environment : String → Option String) :
    Task (Except CommandError Unit) := do
  if arguments.isEmpty then return .error .usage
  else
    match Settings.ofVariables environment with
    | .error error => return .error (.settings error)
    | .ok settings => return (← Pass.run settings arguments).mapError .pass

/-- The exit code of the program. -/
def exitCode (result : Except CommandError Unit) : UInt32 :=
  match result with
  | .ok () => 0
  | .error _ => 1

end CommandLine

end CgroupMeter
