import ConnectorSync.Json.Basic
import ConnectorSync.Launch.Resources

/-!
# Pod manifests

Pods as they are asked of the cluster, and their written form.
-/

namespace ConnectorSync.Cluster

open Json

/-- A directory that the containers of a pod share. -/
structure Volume where
  name : String
  inMemory : Bool := false
  deriving DecidableEq, Repr

/-- A volume at a path of a container. -/
structure Mount where
  volume : String
  path : String
  deriving DecidableEq, Repr

/-- A variable of a container's environment. -/
structure Variable where
  name : String
  value : String
  deriving DecidableEq, Repr

/-- A container as it is asked for. What is `none` is left to the cluster. -/
structure Container where
  name : String
  image : String
  imagePullPolicy : Option String := none
  command : Option (List String) := none
  args : Option (List String) := none
  workingDir : Option String := none
  env : Option (List Variable) := none
  resources : Option Launch.Resources := none
  mounts : List Mount
  deriving DecidableEq

/-- A pod as it is asked for. It is never restarted. -/
structure Manifest where
  name : String
  ns : String
  labels : StringMap String
  annotations : Option (StringMap String) := none
  initContainers : List Container
  containers : List Container
  volumes : List Volume
  nodeSelector : Option (String × String) := none
  deriving DecidableEq

/-! ### Written form -/

def Volume.encode (v : Volume) : Value :=
  .record [("name", .string v.name),
    ("emptyDir", .present [("medium", if v.inMemory then some (.string "Memory") else none)])]

def Mount.encode (m : Mount) : Value :=
  .record [("name", .string m.volume), ("mountPath", .string m.path)]

def Variable.encode (v : Variable) : Value :=
  .record [("name", .string v.name), ("value", .string v.value)]

/-- Requests and limits, each of which is left out when it is empty. -/
def encodeResources (r : Launch.Resources) : Value :=
  let amounts (cpu memory : Option String) : Option Value :=
    if cpu.isNone && memory.isNone then none
    else some (.present [("cpu", cpu.map .string), ("memory", memory.map .string)])
  .present [("limits", amounts r.cpuLimit r.memoryLimit),
    ("requests", amounts r.cpuRequest r.memoryRequest)]

def Container.encode (c : Container) : Value :=
  let texts := Value.ofList Value.string
  .present [("args", c.args.map texts), ("command", c.command.map texts),
    ("env", c.env.map (.ofList Variable.encode)), ("image", some (.string c.image)),
    ("imagePullPolicy", c.imagePullPolicy.map .string), ("name", some (.string c.name)),
    ("resources", c.resources.map encodeResources),
    ("volumeMounts", some (.ofList Mount.encode c.mounts)),
    ("workingDir", c.workingDir.map .string)]

def Manifest.encode (m : Manifest) : Value :=
  .record [("apiVersion", .string "v1"), ("kind", .string "Pod"),
    ("metadata", .present [("annotations", m.annotations.map (.ofMap .string)),
      ("labels", some (.ofMap .string m.labels)), ("name", some (.string m.name)),
      ("namespace", some (.string m.ns))]),
    ("spec", .present [("containers", some (.ofList Container.encode m.containers)),
      ("initContainers", some (.ofList Container.encode m.initContainers)),
      ("nodeSelector", m.nodeSelector.map fun (key, value) => .record [(key, .string value)]),
      ("restartPolicy", some (.string "Never")),
      ("volumes", some (.ofList Volume.encode m.volumes))])]

end ConnectorSync.Cluster
