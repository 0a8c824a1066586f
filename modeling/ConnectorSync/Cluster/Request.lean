import ConnectorSync.Cluster.Error
import ConnectorSync.Cluster.PodStatus
import ConnectorSync.Text.Bytes

/-!
# Requests to a cluster

What can be asked of a cluster, and what it answers.
-/

namespace ConnectorSync.Cluster

/-- A pod by namespace and name. -/
structure PodKey where
  ns : String
  name : String
  deriving DecidableEq, Repr

/-- A file copied to a container. -/
structure CopiedFile where
  container : String
  path : String
  contents : Bytes
  deriving DecidableEq

inductive Request
  | create (ns : String) (manifest : Json.Value)
  | read (key : PodKey)
  | delete (key : PodKey)
  | copy (key : PodKey) (file : CopiedFile)
  | tail (key : PodKey) (container : String) (count : Nat)

/-- What a request that is granted answers: the status of a pod that is there, whether a pod was
there to be deleted, lines of a log. -/
abbrev Request.Result : Request → Type
  | create .. | copy .. => Unit
  | read _ => Option PodStatus
  | delete _ => Bool
  | tail .. => List String

abbrev Request.Answer (r : Request) : Type := Except Error r.Result

end ConnectorSync.Cluster
