import ConnectorSync.Files.Tree
import ConnectorSync.Launch.Descriptor
import ConnectorSync.Launch.Error
import ConnectorSync.Launcher.Arguments
import ConnectorSync.Workload.Error

/-!
# What the launcher runs

The arguments, the environment and the input files settle what is launched and how. The launcher
ends with the exit code of the connector, or says why it could not go on.
-/

namespace ConnectorSync.Launcher

open Launch

def version : String := "0.3.0"

/-- What the launcher answers when it is asked for its version. -/
def versionLine : String := "syncrun-launcher " ++ version

/-- Why the launcher could not go on. -/
inductive Failure
  | config (error : ConfigError)
  /-- An input file that could not be read. -/
  | input (path : String)
  | launch (error : Launch.Error)
  | workload (error : Workload.Error)
  deriving DecidableEq

def Failure.message : Failure → String
  | .config error => error.message
  | .input path => "reading " ++ path
  | .launch error => error.message
  | .workload error => error.message

def readInput (files : Files.Tree) : Option String → Except Failure (Option String)
  | none => .ok none
  | some path => ((files.readText path).map some).mapError fun _ => .input path

/-- What the arguments ask to be launched, with the input files read in turn. -/
def Arguments.order (a : Arguments) (files : Files.Tree) : Except Failure Order := do
  let config ← readInput files a.config
  let catalog ← readInput files a.catalog
  let state ← readInput files a.state
  return {
    image := a.image
    step := a.step
    jobId := a.jobId
    attempt := a.attempt
    config, catalog, state
    env := .ofList a.env
    isolated := a.isolated }

structure Plan where
  config : Config
  descriptor : Descriptor

def plan (env : Environment) (files : Files.Tree) (a : Arguments) : Except Failure Plan := do
  let config ← (Config.ofEnvironment env).mapError Failure.config
  let order ← a.order files
  return ⟨config, order.descriptor⟩

/-- The status of a launcher that was called in a way it does not know. -/
def misuseStatus : Nat := 2

/-- The status of a launcher that could not go on. -/
def failureStatus : Nat := 1

def breakdownStatus : Nat := 101

/-- The status with which the launcher ends after its connector. A code that is no status counts as
a failure. -/
def exitStatus (code : Int) : Nat := if 0 ≤ code ∧ code ≤ 255 then code.toNat else failureStatus

end ConnectorSync.Launcher
