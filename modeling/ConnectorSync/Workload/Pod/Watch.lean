import ConnectorSync.Workload.Pod.Startup

/-!
# The watch on an attached pod

The watch looks at a pod at every poll until it has ended, and puts its exit code down. A pod that is
gone, or that cannot be looked at five times in a row, counts as killed.
-/

namespace ConnectorSync.Workload.Pod

open Launch Cluster

/-- Why the cluster ended a container that took too much memory. -/
def memoryKillReason : String := "OOMKilled"

/-- The exit code of a pod, if it has ended: that of the connector's container, or else one for the
phase of the pod. Where a code is not one of success, or is missing, the log may show that memory
ran out. -/
def endCode (key : PodKey) (oomLogLines : Nat) (status : PodStatus) : Talk (Option Int) := do
  match (status.container? mainContainer).bind fun c => c.exitCode.map (·, c.reason) with
  | some (code, reason) =>
    if reason = some memoryKillReason then return some exitOutOfMemory
    else if code ≠ exitSuccess then
      return some (if ← ranOutOfMemory key oomLogLines then exitOutOfMemory else code)
    else return some code
  | none =>
    if ! status.isTerminal then return none
    else if ← ranOutOfMemory key oomLogLines then return some exitOutOfMemory
    else return some (if status.phase = .succeeded then exitSuccess else exitFailed)

/-- How many looks in a row may fail before the pod counts as lost. -/
def mostFailedLooks : Nat := 5

/-- The watch on a pod, by the number of looks that have failed in a row. -/
def watch (key : PodKey) (pollInterval : Duration) (oomLogLines : Nat) : Turns Nat Unit :=
  fun failed => do
    let ended (code : Int) : Talk (Nat ⊕ Unit) := do
      let _ ← ask (.complete code)
      return .inr ()
    let goOn (failed : Nat) : Talk (Nat ⊕ Unit) := do
      if ← ask (.pauseWatch pollInterval) then return .inl failed else return .inr ()
    match ← askCluster (.read key) with
    | .ok (some status) =>
      match ← endCode key oomLogLines status with
      | some code => ended code
      | none => goOn 0
    | .ok none => ended exitKilled
    | .error _ => if failed + 1 < mostFailedLooks then goOn (failed + 1) else ended exitKilled

end ConnectorSync.Workload.Pod
