import ConnectorSync.Launch.Resources
import ConnectorSync.Launch.Step
import ConnectorSync.StringMap
import ConnectorSync.Uuid

/-!
# Launch descriptors

Everything a backend needs to start one step of a connector. A descriptor is put together once, from
an `Order`: the arguments name exactly those input files that the step takes and the order gives.
-/

namespace ConnectorSync.Launch

open Text

/-- Everything needed to start one connector step. -/
structure Descriptor where
  jobId : String
  attempt : Nat
  connectionId : Option Uuid := none
  workspaceId : Option Uuid := none
  image : String
  step : Step
  args : List String := []
  files : StringMap String := .empty
  resources : Resources := {}
  allowedHosts : List String := []
  env : StringMap String := .empty
  isolated : Bool := false
  deriving DecidableEq

def configFile : String := "connector_config.json"
def catalogFile : String := "connector_catalog.json"
def stateFile : String := "input_state.json"

/-- What a step is asked to do, before its arguments and files are put together. -/
structure Order where
  image : String
  step : Step
  jobId : String
  attempt : Nat
  connectionId : Option Uuid := none
  workspaceId : Option Uuid := none
  config : Option String := none
  catalog : Option String := none
  state : Option String := none
  files : StringMap String := .empty
  extraArgs : List String := []
  resources : Resources := {}
  allowedHosts : List String := []
  env : StringMap String := .empty
  isolated : Bool := false

namespace Order

/-- The input files that the step takes, each with the option that names it. -/
def inputs (o : Order) : List (String × String × String) :=
  let take (wanted : Bool) (option file : String) (contents : Option String) :=
    if wanted then (contents.map fun c => (option, file, c)).toList else []
  take (o.step ≠ .spec) "--config" configFile o.config ++
    take (o.step = .read ∨ o.step = .write) "--catalog" catalogFile o.catalog ++
    take (o.step = .read) "--state" stateFile o.state

/-- The descriptor of an order: step name, input files, extra arguments; requests within limits. -/
def descriptor (o : Order) : Descriptor where
  jobId := o.jobId
  attempt := o.attempt
  connectionId := o.connectionId
  workspaceId := o.workspaceId
  image := o.image
  step := o.step
  args := o.step.name :: (o.inputs.flatMap fun (option, file, _) => [option, file]) ++ o.extraArgs
  files := o.inputs.foldl (fun files (_, file, contents) => files.insert file contents) o.files
  resources := o.resources.clamped
  allowedHosts := o.allowedHosts
  env := o.env
  isolated := o.isolated

end Order

/-- The name under which a workload's documents are kept: job, attempt and step. -/
def Descriptor.workloadId (d : Descriptor) : String :=
  d.jobId ++ "_" ++ decimal d.attempt ++ "_" ++ d.step.name

end ConnectorSync.Launch
