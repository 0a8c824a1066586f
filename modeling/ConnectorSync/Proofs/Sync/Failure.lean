import Mathlib.Data.List.Pairwise
import ConnectorSync.Sync.Failure

/-!
# Summaries of failures

The reasons of a summary are those it was made of, in the order of their times; reasons of the same
time are in the order in which they were given.
-/

namespace ConnectorSync

theorem Timestamp.le_iff {a b : Timestamp} :
    a.le b ↔ a.seconds < b.seconds ∨ a.seconds = b.seconds ∧ a.nanos ≤ b.nanos := by
  simp [Timestamp.le]

theorem Timestamp.le_trans {a b c : Timestamp} (first : a.le b) (second : b.le c) : a.le c := by
  rw [le_iff] at *
  omega

theorem Timestamp.le_total (a b : Timestamp) : a.le b || b.le a := by
  rw [Bool.or_eq_true, le_iff, le_iff]
  omega

theorem Timestamp.le_refl (a : Timestamp) : a.le a :=
  le_iff.2 (.inr ⟨rfl, Nat.le_refl _⟩)

namespace Sync

/-- The same failures in the order of their times; those of the same time keep their order. -/
structure ByTime (failures sorted : List FailureReason) : Prop where
  perm : sorted.Perm failures
  ordered : sorted.Pairwise fun a b => a.timestamp.le b.timestamp
  stable : ∀ t, sorted.filter (·.timestamp = t) = failures.filter (·.timestamp = t)

namespace FailureSummary

theorem before_trans (a b c : FailureReason) (first : a.timestamp.le b.timestamp)
    (second : b.timestamp.le c.timestamp) : a.timestamp.le c.timestamp :=
  Timestamp.le_trans first second

theorem before_total (a b : FailureReason) :
    a.timestamp.le b.timestamp || b.timestamp.le a.timestamp :=
  Timestamp.le_total _ _

variable (failures : List FailureReason) (partialSuccess : Option Bool)

theorem perm_ofReasons : (ofReasons failures partialSuccess).failures.Perm failures :=
  List.mergeSort_perm _ _

theorem pairwise_ofReasons : (ofReasons failures partialSuccess).failures.Pairwise
    fun a b => a.timestamp.le b.timestamp :=
  List.pairwise_mergeSort before_trans before_total failures

/-- Reasons of the same time keep their order. -/
theorem filter_ofReasons (t : Timestamp) :
    (ofReasons failures partialSuccess).failures.filter (·.timestamp = t) =
      failures.filter (·.timestamp = t) := by
  have sameTime : (failures.filter (·.timestamp = t)).Pairwise
      fun a b => a.timestamp.le b.timestamp := by
    refine List.pairwise_of_forall_mem_list fun a ha b hb => ?_
    have at_a : a.timestamp = t := of_decide_eq_true (List.mem_filter.1 ha).2
    have at_b : b.timestamp = t := of_decide_eq_true (List.mem_filter.1 hb).2
    rw [at_a, at_b]
    exact t.le_refl
  have inside : (failures.filter (·.timestamp = t)).Sublist
      (ofReasons failures partialSuccess).failures :=
    List.sublist_mergeSort before_trans before_total sameTime List.filter_sublist
  have kept := inside.filter (·.timestamp = t)
  rw [List.filter_filter] at kept
  simp only [Bool.and_self] at kept
  exact (kept.eq_of_length ((perm_ofReasons failures partialSuccess).filter _).length_eq.symm).symm

theorem byTime_ofReasons : ByTime failures (ofReasons failures partialSuccess).failures :=
  ⟨perm_ofReasons _ _, pairwise_ofReasons _ _, filter_ofReasons _ _⟩

end FailureSummary

end Sync

end ConnectorSync
