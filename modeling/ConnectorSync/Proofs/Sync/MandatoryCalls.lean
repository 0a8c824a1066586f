import ConnectorSync.Proofs.Sync.DelayGrowth
import ConnectorSync.Sync.Manager

/-!
# Calls that cannot be done without

A call is made again until it succeeds or has failed too often. The results that its repetitions
would have tell which of them is the last one, and with that everything that is asked and answered.
-/

namespace ConnectorSync.Sync

variable {m : Manager} {c : Call} {input : RunInput}

abbrev Results := (c : Call) → Nat → Except ActivityError c.Reply

namespace Results

variable {results : Results} {first last : Nat}

/-- Every call has the next of its results, and every pause ends. What was asked is noted in
order. -/
def answer (results : Results) : (r : Request) → StateT (List Request) Option r.Answer
  | .call c => fun past => some (results c (past.count (.call c) + 1), past ++ [.call c])
  | .pause span => fun past => some ((), past ++ [.pause span])
  | _ => fun _ => none

/-- The number of the first call in a range that succeeds, or of the last one if all of them
fail. -/
def settling (results : Results) (c : Call) (first last : Nat) : Nat :=
  ((List.range' first (last + 1 - first)).find? fun i => (results c i).isOk).getD last

theorem settling_of_ok (le : first ≤ last) (ok : (results c first).isOk = true) :
    results.settling c first last = first := by
  unfold settling
  rw [Nat.succ_sub le, List.range'_succ, List.find?_cons]
  simp only [ok]
  rfl

theorem settling_of_error (le : first ≤ last) (failed : (results c first).isOk = false) :
    results.settling c first last = results.settling c (first + 1) last := by
  unfold settling
  rw [Nat.succ_sub le, List.range'_succ, List.find?_cons, Nat.add_sub_add_right]
  simp only [failed]

theorem settling_self (c : Call) (last : Nat) : results.settling c last last = last := by
  cases ok : (results c last).isOk with
  | true => exact settling_of_ok (Nat.le_refl last) ok
  | false =>
    rw [settling_of_error (Nat.le_refl last) ok]
    unfold settling
    rw [Nat.sub_self]
    rfl

theorem le_settling (le : first ≤ last) : first ≤ results.settling c first last := by
  unfold settling
  cases found : (List.range' first (last + 1 - first)).find? fun i => (results c i).isOk with
  | none => exact le
  | some i => exact (List.mem_range'_1.1 (List.mem_of_find?_eq_some found)).1

end Results

namespace Manager

variable {results : Results} {past : List Request} {left failed first last : Nat}

/-- Calls of the numbers in a range, each but the first after the pause for the failure before it. -/
def repetitions (m : Manager) (c : Call) (first last : Nat) : List Request :=
  .call c :: (List.range' first (last - first)).flatMap fun i =>
    [.pause (m.config.retryDelay i), .call c]

@[simp] theorem repetitions_self (last : Nat) : m.repetitions c last last = [.call c] := by
  unfold repetitions
  rw [Nat.sub_self]
  rfl

theorem repetitions_of_lt (lt : first < last) :
    m.repetitions c first last =
      [.call c, .pause (m.config.retryDelay first)] ++ m.repetitions c (first + 1) last := by
  unfold repetitions
  obtain ⟨more, rfl⟩ := Nat.exists_eq_add_of_lt lt
  rw [Nat.add_assoc, Nat.add_sub_cancel_left, List.range'_succ, List.flatMap_cons,
    Nat.add_comm more 1, ← Nat.add_assoc, Nat.add_sub_cancel_left]
  rfl

/-- How a call ends for who made it, by the result of its last repetition. -/
def outcome {α : Type} (c : Call) (result : Except ActivityError α) : Except ActivityFailure α :=
  result.mapError fun error => ⟨c.activity, error⟩

def answered (m : Manager) (c : Call) (left failed : Nat) :
    Except ActivityError c.Reply → Generation c.Reply
  | .ok reply => return reply
  | .error error =>
    match left with
    | 0 => throw ⟨c.activity, error⟩
    | left + 1 => do
      ask (.pause (m.config.retryDelay (failed + 1)))
      m.retrying c left (failed + 1)

theorem perform_answered (left failed : Nat) (made : past.count (.call c) = failed) :
    ((m.retrying c left failed).run.run input).perform results.answer past =
      ((m.answered c left failed (results c (failed + 1))).run.run input).perform results.answer
        (past ++ [.call c]) := by
  rw [← made, retrying]
  rfl

theorem count_past (made : past.count (.call c) = failed) (span : Duration) :
    (past ++ [Request.call c, Request.pause span]).count (Request.call c) = failed + 1 := by
  rw [List.count_append, made]
  simp

/-- By induction on the calls that are left: how often the call was made is read off what was asked,
so it grows with the failures that the manager counts. -/
theorem perform_retrying (made : past.count (.call c) = failed)
    (settled : results.settling c (failed + 1) (failed + 1 + left) = last) :
    ((m.retrying c left failed).run.run input).perform results.answer past =
      some ((outcome c (results c last), input), past ++ m.repetitions c (failed + 1) last) := by
  induction left generalizing failed past with
  | zero =>
    obtain rfl : failed + 1 = last := by
      rw [← settled, Nat.add_zero, Results.settling_self]
    rw [perform_answered 0 failed made, repetitions_self]
    cases results c (failed + 1) with
    | ok reply => rfl
    | error e => rfl
  | succ left ih =>
    rw [perform_answered (left + 1) failed made]
    have le : failed + 1 ≤ failed + 1 + (left + 1) := Nat.le_add_right _ _
    cases result : results c (failed + 1) with
    | ok reply =>
      have ok : (results c (failed + 1)).isOk = true := by rw [result]; rfl
      obtain rfl : failed + 1 = last := by
        rw [← settled, Results.settling_of_ok le ok]
      rw [repetitions_self, result]
      rfl
    | error e =>
      have failure : (results c (failed + 1)).isOk = false := by rw [result]; rfl
      rw [Results.settling_of_error le failure, Nat.add_comm left 1, ← Nat.add_assoc] at settled
      have lt : failed + 1 < last := by
        rw [← settled]
        exact Results.le_settling (Nat.le_add_right _ _)
      have rest := ih (count_past made (m.config.retryDelay (failed + 1))) settled
      rw [repetitions_of_lt lt, ← List.append_assoc, ← rest]
      show ((m.retrying c left (failed + 1)).run.run input).perform results.answer
        (past ++ [.call c] ++ [.pause (m.config.retryDelay (failed + 1))]) = _
      rw [List.append_assoc]
      rfl

/-- The number of the last call, where a call succeeds or fails as often as it may. -/
def lastCall (m : Manager) (c : Call) (results : Results) : Nat :=
  results.settling c 1 (max 1 m.config.activityMaxAttempts)

/-- What is asked and what comes of it are told by the results alone: the calls up to the one that
settles it, with a pause before each repetition, of delays that grow up to the limit. -/
theorem mandatory_by_results (m : Manager) (c : Call) (input : RunInput) (results : Results) :
    ((m.mandatory c).run.run input).perform results.answer [] =
      some ((outcome c (results c (m.lastCall c results)), input),
        m.repetitions c 1 (m.lastCall c results)) ∧
    (∀ i j, i ≤ j → m.config.retryDelay i ≤ m.config.retryDelay j) ∧
    ∀ i, m.config.retryDelay i ≤ m.config.activityMaxInterval := by
  refine ⟨?_, fun i j le => ?_, fun i => ?_⟩
  · have budget : 0 + 1 + (m.config.activityMaxAttempts - 1) = max 1 m.config.activityMaxAttempts := by
      omega
    have unmade : ([] : List Request).count (.call c) = 0 := rfl
    refine perform_retrying unmade ?_
    rw [budget]
    rfl
  · exact growingDelay_mono (by decide) le
  · exact growingDelay_le (by decide) i

end Manager

end ConnectorSync.Sync
