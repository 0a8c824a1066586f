import ConnectorSync.Proofs.Workload.Handles

/-!
# Where a detached workload leaves its documents

The connector of a detached pod learns from two variables where to leave its status and its output,
and the handle of the pod looks for both on its own account. The descriptor's own variables come
last in the connector's environment, and the last variable of a name is the one that counts.
-/

namespace ConnectorSync

namespace Workload.Pod

open Launch Cluster Documents

/-! ### Environments -/

/-- The value that a container finds under a name: the one of the last variable of that name. -/
def effective? (env : List Variable) (name : String) : Option String :=
  (env.reverse.find? (·.name = name)).map (·.value)

theorem effective?_append (env later : List Variable) (name : String) :
    effective? (env ++ later) name = (effective? later name).or (effective? env name) := by
  simp only [effective?, List.reverse_append, List.find?_append]
  cases later.reverse.find? (·.name = name) <;> rfl

theorem effective?_singleton (v : Variable) (name : String) :
    effective? [v] name = if v.name = name then some v.value else none := by
  by_cases same : v.name = name <;> simp [effective?, same]

/-- The variables of a map have different names, so each of them counts. -/
theorem effective?_entries (env : StringMap String) (name : String) :
    effective? (env.entries.map fun (name, value) => ⟨name, value⟩) name = env.find? name := by
  simp only [effective?, StringMap.find?, ← List.map_reverse, List.find?_map, Function.comp_def,
    StringMap.find?_reverse, Option.map_map]

/-- The environment of the container in which a pod runs the connector. -/
def mainEnvironment (pod : Manifest) : List Variable :=
  ((pod.containers.find? (·.name = mainContainer)).bind (·.env)).getD []

/-- Of the variables of a connector only those of its descriptor can stand in for the variables about
its documents. -/
theorem effective?_mainEnvironment (config : Config) (d : Descriptor) (name wanted : String)
    (derived : wanted ∉ ["JOB_ID", "ATTEMPT_ID"]) :
    effective? (mainEnvironment (detachedPod name d config)) wanted =
      (d.env.find? wanted).or (effective? (documentVariables name d config) wanted) := by
  have env : mainEnvironment (detachedPod name d config) =
      [⟨"JOB_ID", d.jobId⟩] ++ [⟨"ATTEMPT_ID", Text.decimal d.attempt⟩] ++
        documentVariables name d config ++ d.env.entries.map fun (name, value) => ⟨name, value⟩ := rfl
  rw [env, effective?_append, effective?_append, effective?_append, effective?_entries]
  have job : "JOB_ID" ≠ wanted := fun same => derived (same ▸ List.mem_cons_self)
  have attempt : "ATTEMPT_ID" ≠ wanted := fun same =>
    derived (same ▸ List.mem_cons_of_mem _ List.mem_cons_self)
  simp [effective?_singleton, job, attempt]

theorem effective?_documentPrefix (config : Config) (d : Descriptor) (name : String) :
    effective? (documentVariables name d config) "STATUS_DOCUMENT_PREFIX" =
      some (config.ns ++ "/" ++ name) := rfl

theorem effective?_workloadId (config : Config) (d : Descriptor) (name : String) :
    effective? (documentVariables name d config) "WORKLOAD_ID" = some d.workloadId := rfl

/-! ### The handle -/

namespace Detached

/-- What the handle asks when it is asked for the status, the exit code or the output, or waits. -/
def Seeks (p : Detached) (r : Request) : Prop :=
  p.status.CanAsk r ∨ p.exitValue.CanAsk r ∨ (∃ wait, (p.waitFor wait).CanAsk r) ∨ p.output.CanAsk r

/-- The workload leaves its status and its output where the handle looks for them. -/
structure Meets (p : Detached) (env : List Variable) : Prop where
  documents : ∃ place, effective? env "STATUS_DOCUMENT_PREFIX" = some place ∧
    ∀ key, p.Seeks (.document key) → ∃ status : Status,
      key = statusKey p.key.ns p.key.name status ∧ place ++ "/" ++ status.name = key
  output : ∀ id, p.Seeks (.output id) → effective? env "WORKLOAD_ID" = some id

def Fetches (p : Detached) : Request → Prop
  | .output id => id = p.workloadId
  | r => Looks p.key r

theorem within_output (p : Detached) : p.output.Within p.Fetches fun _ => True := by
  refine .request ⟨.succeeded, rfl⟩ fun answer => ?_
  cases answer with
  | error e => exact trivial
  | ok document =>
    dsimp only
    split
    · exact trivial
    · exact .request rfl fun _ => trivial

theorem fetches_of_looks {p : Detached} {r : Request} (h : Looks p.key r) : p.Fetches r := by
  cases r with
  | output id => exact h.elim
  | _ => exact h

theorem fetches_of_seeks {p : Detached} {r : Request} (h : p.Seeks r) : p.Fetches r := by
  rcases h with h | h | ⟨wait, h⟩ | h
  · exact fetches_of_looks (p.within_status.allows h)
  · exact fetches_of_looks (p.within_exitValue.allows h)
  · exact fetches_of_looks ((p.within_waitFor wait).allows h)
  · exact p.within_output.allows h

theorem seeks_failure (p : Detached) :
    p.Seeks (.document (statusKey p.key.ns p.key.name .failed)) :=
  .inl (.now _)

theorem seeks_output (p : Detached) : p.Seeks (.output p.workloadId) :=
  .inr (.inr (.inr (.later (.ok none) (.now _))))

theorem meets_iff (p : Detached) (env : List Variable) :
    p.Meets env ↔ effective? env "STATUS_DOCUMENT_PREFIX" = some (p.key.ns ++ "/" ++ p.key.name) ∧
      effective? env "WORKLOAD_ID" = some p.workloadId := by
  constructor
  · rintro ⟨⟨place, told, same⟩, output⟩
    refine ⟨?_, output _ p.seeks_output⟩
    -- Any one key would do: it ends in the name of its status, which leaves the prefix.
    obtain ⟨status, key, left⟩ := same _ p.seeks_failure
    have left : place ++ "/" ++ status.name = p.key.ns ++ "/" ++ p.key.name ++ "/" ++ status.name :=
      left.trans key
    rw [told, (String.append_left_inj "/").1 ((String.append_left_inj status.name).1 left)]
  · rintro ⟨told, output⟩
    refine ⟨⟨_, told, fun key sought => ?_⟩, fun id sought => ?_⟩
    · obtain ⟨status, same⟩ := fetches_of_seeks sought
      exact ⟨status, same, same.symm⟩
    · rw [output, show id = p.workloadId from fetches_of_seeks sought]

theorem create_attaches (config : Config) (d : Descriptor) (name : String) (stage : Launching) :
    (create config d name stage).Within (fun _ => True) fun result =>
      ∀ p, result = .inr (.ok p) → p = attach config name d.image d.workloadId := by
  refine Dialogue.Within.bind (.anything _) fun result _ => ?_
  rcases result with stage | (e | done)
  · exact nofun
  · exact .request trivial fun _ => nofun
  · rintro p ⟨⟩
    rfl

theorem attach_meets_iff (config : Config) (d : Descriptor) (name : String) :
    (attach config name d.image d.workloadId).Meets
        (mainEnvironment (detachedPod name d config)) ↔
      (∀ place, d.env.find? "STATUS_DOCUMENT_PREFIX" = some place →
        place = config.ns ++ "/" ++ name) ∧
      ∀ id, d.env.find? "WORKLOAD_ID" = some id → id = d.workloadId := by
  rw [meets_iff, effective?_mainEnvironment _ _ _ _ (by decide),
    effective?_mainEnvironment _ _ _ _ (by decide), effective?_documentPrefix,
    effective?_workloadId]
  refine and_congr ?_ ?_
  · cases d.env.find? "STATUS_DOCUMENT_PREFIX" <;> simp [attach]
  · cases d.env.find? "WORKLOAD_ID" <;> simp [attach]

end Detached

/-- The handle that a launch hands over looks where the workload leaves its documents, exactly if the
descriptor has no variable of its own that moves them. -/
theorem handle_meets_workload_iff (config : Config) (d : Descriptor) (name : String) :
    (∀ stage, (Detached.create config d name stage).Within (fun _ => True) fun result =>
      ∀ p, result = .inr (.ok p) → p = Detached.attach config name d.image d.workloadId) ∧
    ((Detached.attach config name d.image d.workloadId).Meets
        (mainEnvironment (detachedPod name d config)) ↔
      (∀ place, d.env.find? "STATUS_DOCUMENT_PREFIX" = some place →
        place = config.ns ++ "/" ++ name) ∧
      ∀ id, d.env.find? "WORKLOAD_ID" = some id → id = d.workloadId) :=
  ⟨Detached.create_attaches config d name, Detached.attach_meets_iff config d name⟩

def misdirected : Descriptor :=
  { jobId := "7", attempt := 1, image := "airbyte/source-postgres:3.6.0", step := .read,
    env := .ofList [("STATUS_DOCUMENT_PREFIX", "elsewhere")] }

theorem handle_misses_workload :
    ¬ ∀ (config : Config) (d : Descriptor) (name : String),
      (Detached.attach config name d.image d.workloadId).Meets
        (mainEnvironment (detachedPod name d config)) := by
  intro meets
  have meets := meets { ns := "jobs" } misdirected "source-read-7-1-abcde"
  have moved : misdirected.env.find? "STATUS_DOCUMENT_PREFIX" = some "elsewhere" := by decide
  have same := ((Detached.attach_meets_iff ..).1 meets).1 "elsewhere" moved
  exact absurd same (by decide)

end Workload.Pod

end ConnectorSync
