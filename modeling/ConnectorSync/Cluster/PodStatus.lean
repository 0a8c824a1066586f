import ConnectorSync.Json.Decode

/-!
# Pod status

What the cluster reports about a pod: its phase, its address and the state of each container. A
report that says nothing stands for a pending pod without containers.
-/

namespace ConnectorSync.Cluster

open Json

inductive Phase
  | pending
  | running
  | succeeded
  | failed
  | unknown
  deriving DecidableEq, Repr

namespace Phase

def all : List Phase := [pending, running, succeeded, failed, unknown]

def name : Phase → String
  | pending => "Pending"
  | running => "Running"
  | succeeded => "Succeeded"
  | failed => "Failed"
  | unknown => "Unknown"

/-- The phase of a name; a name of none stands for the unknown phase. -/
def ofName (s : String) : Phase :=
  (all.find? (·.name = s)).getD unknown

/-- A phase after which nothing follows. -/
def isTerminal : Phase → Bool
  | succeeded | failed => true
  | _ => false

end Phase

/-- What is known of a container. -/
structure ContainerStatus where
  name : String
  running : Bool := false
  ready : Bool := false
  /-- The exit code, once the container has ended. -/
  exitCode : Option Int := none
  reason : Option String := none
  deriving DecidableEq, Repr

def ContainerStatus.isTerminated (c : ContainerStatus) : Bool := c.exitCode.isSome

/-- What is known of a pod. -/
structure PodStatus where
  phase : Phase := .pending
  podIp : Option String := none
  initContainers : List ContainerStatus := []
  containers : List ContainerStatus := []
  deriving DecidableEq, Repr

namespace PodStatus

def isTerminal (p : PodStatus) : Bool := p.phase.isTerminal

def container? (p : PodStatus) (name : String) : Option ContainerStatus :=
  p.containers.find? (·.name = name)

def initContainer? (p : PodStatus) (name : String) : Option ContainerStatus :=
  p.initContainers.find? (·.name = name)

def isReady (p : PodStatus) (name : String) : Bool :=
  (p.container? name).any fun c => c.running && c.ready

end PodStatus

/-! ### Reading reports -/

/-- The exit code and reason of a container that has ended. -/
def terminatedFields : Fields (Int × Option String) :=
  Prod.mk <$> Fields.required "exitCode" Decode.int32 <*>
    Fields.defaulted "reason" (Decode.optional Decode.text) none

/-- Whether a container is running, and its end. Any value but null counts as running. -/
def stateFields : Fields (Bool × Option (Int × Option String)) :=
  Prod.mk <$>
    Fields.defaulted "running"
      (fun d => (Decode.optional Draft.value d).map Option.isSome) false <*>
    Fields.defaulted "terminated" (Decode.optional (terminatedFields.record "a container's end")) none

def ContainerStatus.decoder : Decoder ContainerStatus :=
  let fields : Fields ContainerStatus :=
    (fun name ready state => ⟨name, state.1, ready, state.2.map (·.1), state.2.bind (·.2)⟩) <$>
      Fields.required "name" Decode.text <*> Fields.defaulted "ready" Decode.bool false <*>
      Fields.defaulted "state" (stateFields.record "a container's state") (false, none)
  fields.record "a container's status"

def PodStatus.statusDecoder : Decoder PodStatus :=
  let containers (name : String) :=
    Fields.defaulted name (Decode.listOf ContainerStatus.decoder) []
  let fields : Fields PodStatus :=
    (fun phase ip init main => ⟨(phase.map Phase.ofName).getD .pending, ip, init, main⟩) <$>
      Fields.defaulted "phase" (Decode.optional Decode.text) none <*>
      Fields.defaulted "podIP" (Decode.optional Decode.text) none <*>
      containers "initContainerStatuses" <*> containers "containerStatuses"
  fields.record "a pod's status"

def PodStatus.decoder : Decoder PodStatus :=
  let fields : Fields (Option PodStatus) :=
    Fields.defaulted "status" (Decode.optional statusDecoder) none
  fun d => (fields.record "a pod" .skipped d).map (·.getD {})

/-- The status that a pod's JSON object reports. Every fault is one of shape. -/
def PodStatus.ofPod (pod : Value) : Except Fault PodStatus :=
  match PodStatus.decoder (Draft.ofValue pod) with
  | .ok status => .ok status
  | .error fault =>
    .error (if fault.category = .mismatched then fault else .ofCause (.refused fault.message))

end ConnectorSync.Cluster
