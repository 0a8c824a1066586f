import ConnectorSync.Documents.Store
import ConnectorSync.Proofs.Launch.ProcessName
import ConnectorSync.Proofs.Text.Numeral

/-!
# Keys that do not collide

The keys under which workloads keep outputs and statuses are put together from parts. The parts are
read off from the end: neither a numeral nor the name of a step has an underscore in it, and neither
a process name nor that of a status has a slash, while a job may have any name.
-/

namespace ConnectorSync

namespace Text

/-- Where a separator does not stand after its last place, that place tells the parts apart. -/
theorem append_cons_inj_of_last {α : Type} {sep : α} {xs ys xs' ys' : List α} (last : sep ∉ ys)
    (last' : sep ∉ ys') : xs ++ sep :: ys = xs' ++ sep :: ys' ↔ xs = xs' ∧ ys = ys' := by
  constructor
  · intro same
    rcases List.append_eq_append_iff.1 same with ⟨more, rfl, rest⟩ | ⟨more, rfl, rest⟩
    · cases more with
      | nil => exact ⟨(List.append_nil xs).symm, (List.cons.inj rest).2⟩
      | cons first more =>
        rw [(List.cons.inj rest).2] at last
        exact absurd (List.mem_append_right more List.mem_cons_self) last
    · cases more with
      | nil => exact ⟨List.append_nil xs', (List.cons.inj rest).2.symm⟩
      | cons first more =>
        rw [(List.cons.inj rest).2] at last'
        exact absurd (List.mem_append_right more List.mem_cons_self) last'
  · rintro ⟨rfl, rfl⟩
    rfl

theorem append_inj_of_last {sep : Char} {a b a' b' : String} (last : sep ∉ b.toList)
    (last' : sep ∉ b'.toList) :
    a ++ String.singleton sep ++ b = a' ++ String.singleton sep ++ b' ↔ a = a' ∧ b = b' := by
  rw [← String.toList_inj, ← @String.toList_inj a, ← @String.toList_inj b]
  simp only [String.toList_append, String.toList_singleton, List.append_assoc, List.singleton_append]
  exact append_cons_inj_of_last last last'

end Text

open Text

namespace Launch

theorem Step.name_inj {a b : Step} : a.name = b.name ↔ a = b := by
  cases a <;> cases b <;> decide

theorem Step.not_mem_name (step : Step) : '_' ∉ step.name.toList := by
  cases step <;> decide

theorem Descriptor.workloadId_inj {d e : Descriptor} : d.workloadId = e.workloadId ↔
    d.jobId = e.jobId ∧ d.attempt = e.attempt ∧ d.step = e.step := by
  have numeral (n : Nat) : '_' ∉ (decimal n).toList := not_mem_decimal (by decide) n
  show _ ++ String.singleton '_' ++ _ = _ ++ String.singleton '_' ++ _ ↔ _
  rw [append_inj_of_last d.step.not_mem_name e.step.not_mem_name]
  show _ ++ String.singleton '_' ++ _ = _ ++ String.singleton '_' ++ _ ∧ _ ↔ _
  rw [append_inj_of_last (numeral d.attempt) (numeral e.attempt), decimal_inj, Step.name_inj, and_assoc]

theorem slash_not_mem_processName (image : String) (step : Step) (jobId : String) (attempt : Nat)
    (suffix : String) (limit : Nat) :
    '/' ∉ (processName image step jobId attempt suffix limit).toList := by
  intro mem
  rw [toList_processName] at mem
  have within := (fromFirstLetter_suffix _).trans
    (lastChars_suffix limit (fullName image step jobId attempt suffix))
  exact absurd (isNameChar_of_mem_fullName (within.mem mem)) (by decide)

end Launch

namespace Documents

open Launch

theorem Status.name_inj {a b : Status} : a.name = b.name ↔ a = b := by
  cases a <;> cases b <;> decide

theorem Status.not_mem_name (status : Status) : '/' ∉ status.name.toList := by
  cases status <;> decide

/-- Whatever the names are, the status stands after the last slash. -/
theorem statusKey_eq_iff {ns ns' name name' : String} {a b : Status} :
    statusKey ns name a = statusKey ns' name' b ↔
      ns ++ "/" ++ name = ns' ++ "/" ++ name' ∧ a = b := by
  rw [← Status.name_inj]
  exact append_inj_of_last a.not_mem_name b.not_mem_name

theorem statusKey_inj {ns name name' : String} {a b : Status} :
    statusKey ns name a = statusKey ns name' b ↔ name = name' ∧ a = b := by
  rw [statusKey_eq_iff, String.append_right_inj]

/-- A process name has no slash, so that its namespace can be told as well. -/
theorem statusKey_inj_of_plain {ns ns' name name' : String} {a b : Status}
    (plain : '/' ∉ name.toList) (plain' : '/' ∉ name'.toList) :
    statusKey ns name a = statusKey ns' name' b ↔ ns = ns' ∧ name = name' ∧ a = b := by
  rw [statusKey_eq_iff, ← and_assoc]
  exact and_congr_left fun _ => append_inj_of_last plain plain'

/-! ### What is kept under them -/

theorem Shelf.output_writeOutput (s : Shelf) (d e : Descriptor) (output : Json.Value) :
    (s.writeOutput d.workloadId output).output e.workloadId =
      if e.jobId = d.jobId ∧ e.attempt = d.attempt ∧ e.step = d.step then some output
      else s.output e.workloadId := by
  simp only [← Descriptor.workloadId_inj]
  exact s.outputs.find?_insert d.workloadId e.workloadId output

theorem Shelf.read_writeStatus (s : Shelf) (ns name contents key : String) (status : Status) :
    (s.writeStatus ns name status contents).read key =
      if key = statusKey ns name status then some contents else s.read key :=
  s.documents.find?_insert (statusKey ns name status) key contents

/-- The key of an output tells its job, attempt and step, and that of a status its pod and status
within a namespace. It tells the namespace as well where no name of a pod has a slash, and no process
name has one. -/
theorem keys_distinct :
    (∀ d e : Descriptor, d.workloadId = e.workloadId ↔
      d.jobId = e.jobId ∧ d.attempt = e.attempt ∧ d.step = e.step) ∧
    (∀ ns name name' a b, statusKey ns name a = statusKey ns name' b ↔ name = name' ∧ a = b) ∧
    (∀ ns ns' name name' a b, '/' ∉ name.toList → '/' ∉ name'.toList →
      (statusKey ns name a = statusKey ns' name' b ↔ ns = ns' ∧ name = name' ∧ a = b)) ∧
    ∀ image step jobId attempt suffix limit,
      '/' ∉ (processName image step jobId attempt suffix limit).toList :=
  ⟨fun _ _ => Descriptor.workloadId_inj, fun _ _ _ _ _ => statusKey_inj,
    fun _ _ _ _ _ _ plain plain' => statusKey_inj_of_plain plain plain', slash_not_mem_processName⟩

/-- Two jobs with underscores, and a namespace that ends where a name of the other begins. -/
theorem keys_distinct_of_lookalikes :
    (∀ d e : Descriptor, d.jobId = "7_1" → e.jobId = "7" → d.workloadId ≠ e.workloadId) ∧
    '/' ∉ "read-7-1-abcde".toList ∧ '/' ∉ "source-read-7-1-abcde".toList ∧
    statusKey "jobs/source" "read-7-1-abcde" .failed ≠
      statusKey "jobs" "source-read-7-1-abcde" .failed := by
  obtain ⟨ids, -, keys, -⟩ := keys_distinct
  have plain : '/' ∉ "read-7-1-abcde".toList := by decide
  have plain' : '/' ∉ "source-read-7-1-abcde".toList := by decide
  refine ⟨fun d e job job' same => ?_, plain, plain', fun same => ?_⟩
  · have jobs := ((ids d e).1 same).1
    rw [job, job'] at jobs
    exact absurd jobs (by decide)
  · exact absurd ((keys _ _ _ _ _ _ plain plain').1 same).1 (by decide)

end Documents

end ConnectorSync
