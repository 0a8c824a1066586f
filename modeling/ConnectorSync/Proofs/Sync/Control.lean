import ConnectorSync.Sync.Control

/-!
# What signals leave as it is

A signal neither begins nor ends a job or a wait, and takes back nothing that was asked for before.
-/

namespace ConnectorSync.Sync.Control

structure Hears (c c' : Control) : Prop where
  running : c'.flags.running = c.flags.running
  doneWaiting : c'.flags.doneWaiting = c.flags.doneWaiting
  cancelled : c.flags.cancelled = true → c'.flags.cancelled = true
  cancelledForReset : c.flags.cancelledForReset = true → c'.flags.cancelledForReset = true
  deleted : c.flags.deleted = true → c'.flags.deleted = true
  updated : c.flags.updated = true → c'.flags.updated = true
  skipScheduling : c.flags.skipScheduling = true → c'.flags.skipScheduling = true
  attempt : c.attempt = some true → c'.attempt = some true

variable {c c' : Control}

theorem Hears.refl (c : Control) : c.Hears c := ⟨rfl, rfl, id, id, id, id, id, id⟩

theorem Hears.cancelAttempt (h : c.Hears c') : c.Hears c'.cancelAttempt where
  running := h.running
  doneWaiting := h.doneWaiting
  cancelled := h.cancelled
  cancelledForReset := h.cancelledForReset
  deleted := h.deleted
  updated := h.updated
  skipScheduling := h.skipScheduling
  attempt asked := by simp [Control.cancelAttempt, h.attempt asked]

theorem hears_requestReset (c : Control) (skipNext : Bool) : c.Hears (c.requestReset skipNext) := by
  unfold requestReset
  dsimp only
  split
  · exact .cancelAttempt ⟨rfl, rfl, id, fun _ => rfl, id, id, id, id⟩
  · exact ⟨rfl, rfl, id, id, id, id, fun _ => rfl, id⟩

/-- By cases on the signal: each raises flags or is ignored, and may ask the attempt to end. -/
theorem hears_signal (c : Control) (s : Signal) : c.Hears (c.signal s) := by
  unfold signal
  cases s with
  | manualSync =>
    dsimp only
    split
    · exact .refl c
    · exact ⟨rfl, rfl, id, id, id, id, fun _ => rfl, id⟩
  | cancel =>
    dsimp only
    split
    · exact .cancelAttempt ⟨rfl, rfl, fun _ => rfl, id, id, id, id, id⟩
    · exact .refl c
  | delete =>
    dsimp only
    split
    · exact .cancelAttempt ⟨rfl, rfl, fun _ => rfl, id, fun _ => rfl, id, id, id⟩
    · exact ⟨rfl, rfl, id, id, fun _ => rfl, id, id, id⟩
  | updated => exact ⟨rfl, rfl, id, id, id, fun _ => rfl, id, id⟩
  | reset => exact c.hears_requestReset false
  | resetAndSkipSchedule => exact c.hears_requestReset true

/-- Only a reset that skips the next wait asks for it. -/
theorem skipSchedulingNext_signal (c : Control) (s : Signal) :
    (c.signal s).flags.skipSchedulingNext =
      (c.flags.skipSchedulingNext || s = .resetAndSkipSchedule) := by
  cases s with
  | updated => simp [signal]
  | manualSync | cancel | delete =>
    cases h : c.flags.running <;> simp [signal, cancelAttempt, h]
  | reset | resetAndSkipSchedule =>
    cases h : c.flags.doneWaiting <;> simp [signal, requestReset, cancelAttempt, h]

end ConnectorSync.Sync.Control
