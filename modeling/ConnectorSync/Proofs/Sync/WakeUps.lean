import ConnectorSync.Proofs.Sync.Control
import ConnectorSync.Sync.Waiter
import Mathlib.Logic.Function.Iterate
import Mathlib.Logic.Relation

/-!
# No lost wake-up

One wait with any number of signals around it. A signal takes the lock and changes the flags, lets
the lock go and rings the bell as its last step; the wait reads the flags only while nobody holds
the lock. The bell is not remembered, so a wait that is parked relies on this: flags that end it
were raised after it read them, by a signal that has yet to ring.
-/

namespace ConnectorSync.Sync

/-! ### Flags under signals -/

variable {purpose : Wait} {flags : Flags} {w : Waiter} {elapsed : Bool}

theorem Control.Hears.isInterrupted {c c' : Control} (heard : c.Hears c')
    (up : purpose.isInterrupted c.flags = true) : purpose.isInterrupted c'.flags = true := by
  cases purpose with
  | recovery => exact heard.deleted up
  | schedule =>
    simp only [Wait.isInterrupted, Flags.interruptsWait, Bool.or_eq_true] at up ⊢
    obtain ((up | up) | up) | up := up
    · exact .inl (.inl (.inl (heard.skipScheduling up)))
    · exact .inl (.inl (.inr (heard.deleted up)))
    · exact .inl (.inr (heard.updated up))
    · exact .inr (heard.cancelled up)

/-! ### The steps of a waiter -/

theorem Waiter.ring_ne_parked (w : Waiter) : w.ring ≠ .parked false := by
  cases w <;> nofun

theorem Waiter.ring_eq_ended (ended : w.ring = .ended) : w = .ended := by
  cases w with
  | ended => rfl
  | arriving | registered | parked => cases ended

/-- A waiter parks only under flags that keep its wait going. -/
theorem Waiter.step_eq_parked (parks : w.step purpose flags elapsed = .parked false) :
    w = .parked false ∨ purpose.isInterrupted flags = false := by
  cases w with
  | arriving | ended => cases parks
  | registered rung =>
    dsimp only [Waiter.step] at parks
    split at parks
    · cases parks
    · next down => exact .inr (Bool.eq_false_iff.2 down)
  | parked rung =>
    cases rung with
    | true => cases parks
    | false => exact .inl rfl

theorem Waiter.step_eq_ended (ends : w.step purpose flags elapsed = .ended) :
    w = .ended ∨ purpose.isInterrupted flags = true ∨ elapsed = true := by
  cases w with
  | arriving => cases ends
  | ended => exact .inl rfl
  | registered rung =>
    dsimp only [Waiter.step] at ends
    split at ends
    · next up => exact .inr (.inl up)
    · cases ends
  | parked rung =>
    dsimp only [Waiter.step] at ends
    split at ends
    · cases ends
    · split at ends
      · next up => exact .inr (.inr up)
      · cases ends

/-- A wait that is not parked without a ring ends by at most three steps of its own under flags that
end it. -/
theorem Waiter.ends_soon (elapsed : Bool) (up : purpose.isInterrupted flags = true)
    (awake : w ≠ .parked false) : (Waiter.step purpose flags elapsed)^[3] w = .ended := by
  cases w with
  | arriving => simp [Waiter.step, up]
  | registered rung => simp [Waiter.step, up]
  | parked rung =>
    cases rung with
    | true => simp [Waiter.step, up]
    | false => exact absurd rfl awake
  | ended => rfl

namespace WakeUps

structure Caller where
  signal : Signal
  found : Control

namespace Caller

def made (c : Caller) : Control := c.found.signal c.signal

/-- Whether the bell is rung in the end. A signal that is ignored does not ring it. -/
def rings (c : Caller) : Bool :=
  match c.signal with
  | .manualSync => !c.found.flags.running
  | .cancel => c.found.flags.running
  | _ => true

/-- The signal found flags that keep a wait going, and left flags that end it. -/
def Raises (purpose : Wait) (c : Caller) : Prop :=
  purpose.isInterrupted c.found.flags = false ∧ purpose.isInterrupted c.made.flags = true

end Caller

structure Scene where
  control : Control
  waiter : Waiter
  now : Nat
  holder : Option Caller
  unrung : List Caller

def Scene.underWay (s : Scene) : List Caller := s.holder.toList ++ s.unrung

def isDue (due : Option Nat) (now : Nat) : Bool := due.any (· ≤ now)

variable {due : Option Nat} {s s' start : Scene} {caller : Caller}

inductive Step (purpose : Wait) (due : Option Nat) (s : Scene) : Scene → Prop
  | signal (signal : Signal) (free : s.holder = none) :
    Step purpose due s
      { s with control := s.control.signal signal, holder := some ⟨signal, s.control⟩ }
  | release (caller : Caller) (holds : s.holder = some caller) (rings : caller.rings = true) :
    Step purpose due s { s with holder := none, unrung := caller :: s.unrung }
  | ignored (caller : Caller) (holds : s.holder = some caller) (silent : caller.rings = false) :
    Step purpose due s { s with holder := none }
  | ring (front back : List Caller) (caller : Caller) (last : s.unrung = front ++ caller :: back) :
    Step purpose due s { s with waiter := s.waiter.ring, unrung := front ++ back }
  | wait (free : (∃ rung, s.waiter = .registered rung) → s.holder = none) :
    Step purpose due s
      { s with waiter := s.waiter.step purpose s.control.flags (isDue due s.now) }
  /-- A wait that is woken when the time has come as well may end as well. -/
  | expire (woken : s.waiter = .parked true) (elapsed : isDue due s.now = true) :
    Step purpose due s { s with waiter := .ended }
  | tick : Step purpose due s { s with now := s.now + 1 }

abbrev Steps (purpose : Wait) (due : Option Nat) : Scene → Scene → Prop :=
  Relation.ReflTransGen (Step purpose due)

/-! ### Signals under way -/

theorem Caller.made_of_silent (silent : caller.rings = false) : caller.made = caller.found := by
  obtain ⟨signal, found⟩ := caller
  cases signal with
  | manualSync =>
    have running : found.flags.running = true := by simpa [rings] using silent
    exact if_pos running
  | cancel =>
    have idle : ¬ found.flags.running = true := by simpa [rings] using silent
    exact if_neg idle
  | delete | updated | reset | resetAndSkipSchedule => cases silent

theorem Caller.Raises.rings (raises : caller.Raises purpose) : caller.rings = true := by
  obtain ⟨down, up⟩ := raises
  cases silent : caller.rings with
  | true => rfl
  | false =>
    rw [made_of_silent silent, down] at up
    cases up

/-! ### What every step keeps -/

structure Sound (purpose : Wait) (due : Option Nat) (s : Scene) : Prop where
  /-- Under flags that end the wait, a signal that raised them has yet to ring. -/
  parked : s.waiter = .parked false → purpose.isInterrupted s.control.flags = true →
    ∃ caller ∈ s.underWay, caller.Raises purpose
  ended : s.waiter = .ended →
    purpose.isInterrupted s.control.flags = true ∨ isDue due s.now = true

theorem isDue_iff {now : Nat} : isDue due now = true ↔ ∃ tick ∈ due, tick ≤ now := by
  cases due with
  | none => exact iff_of_false nofun nofun
  | some tick => simp [isDue]

theorem isDue_succ {now : Nat} (elapsed : isDue due now = true) : isDue due (now + 1) = true := by
  obtain ⟨tick, mem, reached⟩ := isDue_iff.1 elapsed
  exact isDue_iff.2 ⟨tick, mem, Nat.le_succ_of_le reached⟩

/-- By cases on the step: whoever raises flags under a parked wait is under way to the bell, and the
flags stay up until it is rung. -/
theorem Sound.step (sound : Sound purpose due s) (step : Step purpose due s s') :
    Sound purpose due s' := by
  cases step with
  | signal signal free =>
    refine ⟨fun parked up => ?_, fun ended => ?_⟩
    · cases before : purpose.isInterrupted s.control.flags with
      | false => exact ⟨⟨signal, s.control⟩, List.mem_cons_self, before, up⟩
      | true =>
        obtain ⟨caller, mem, raises⟩ := sound.parked parked before
        unfold Scene.underWay at mem
        rw [free] at mem
        exact ⟨caller, List.mem_cons_of_mem _ mem, raises⟩
    · exact (sound.ended ended).imp_left (s.control.hears_signal signal).isInterrupted
  | release holder holds rings =>
    refine ⟨fun parked up => ?_, sound.ended⟩
    obtain ⟨caller, mem, raises⟩ := sound.parked parked up
    unfold Scene.underWay at mem
    rw [holds] at mem
    exact ⟨caller, mem, raises⟩
  | ignored holder holds silent =>
    refine ⟨fun parked up => ?_, sound.ended⟩
    obtain ⟨caller, mem, raises⟩ := sound.parked parked up
    unfold Scene.underWay at mem
    rw [holds] at mem
    obtain rfl | mem := List.mem_cons.1 mem
    · rw [raises.rings] at silent
      cases silent
    · exact ⟨caller, mem, raises⟩
  | ring front back caller last =>
    exact ⟨fun parked => absurd parked (Waiter.ring_ne_parked _),
      fun ended => sound.ended (Waiter.ring_eq_ended ended)⟩
  | wait free =>
    refine ⟨fun parks up => ?_, fun ends => ?_⟩
    · obtain parked | down := Waiter.step_eq_parked parks
      · exact sound.parked parked up
      · exact absurd up (Bool.eq_false_iff.1 down)
    · obtain ended | reason := Waiter.step_eq_ended ends
      · exact sound.ended ended
      · exact reason
  | expire woken elapsed => exact ⟨nofun, fun _ => .inr elapsed⟩
  | tick =>
    exact ⟨sound.parked, fun ended => (sound.ended ended).imp_right isDue_succ⟩

theorem Sound.steps (sound : Sound purpose due start) (steps : Steps purpose due start s) :
    Sound purpose due s := by
  induction steps with
  | refl => exact sound
  | tail _ step ih => exact ih.step step

/-- Under every interleaving of a wait with signals: a parked waiter that the bell has not reached,
under flags that end its wait, is about to be rung for by a signal that raised them; without such a
signal under way the wait ends by its own steps. A wait is over only under flags that end it or when
its time has come. -/
theorem no_lost_wakeup (arriving : start.waiter = .arriving) (steps : Steps purpose due start s) :
    (s.waiter = .parked false → purpose.isInterrupted s.control.flags = true →
        ∃ caller ∈ s.underWay, caller.Raises purpose ∧ caller.rings = true) ∧
      (purpose.isInterrupted s.control.flags = true →
        (∀ caller ∈ s.underWay, ¬ caller.Raises purpose) →
        ∀ elapsed, (Waiter.step purpose s.control.flags elapsed)^[3] s.waiter = .ended) ∧
      (s.waiter = .ended →
        purpose.isInterrupted s.control.flags = true ∨ ∃ tick ∈ due, tick ≤ s.now) := by
  have first : Sound purpose due start := by
    constructor
    · rw [arriving]
      nofun
    · rw [arriving]
      nofun
  have sound := first.steps steps
  refine ⟨fun parked up => ?_, fun up settled elapsed => ?_, fun ended => ?_⟩
  · obtain ⟨caller, mem, raises⟩ := sound.parked parked up
    exact ⟨caller, mem, raises, raises.rings⟩
  · apply Waiter.ends_soon elapsed up
    intro parked
    obtain ⟨caller, mem, raises⟩ := sound.parked parked up
    exact settled caller mem raises
  · exact (sound.ended ended).imp_right isDue_iff.1

/-- A wait that parked before the connection was deleted; the deletion still holds the lock. -/
def asleep : Scene where
  control := { flags := { deleted := true } }
  waiter := .parked false
  now := 0
  holder := some ⟨.delete, {}⟩
  unrung := []

theorem asleep_awaits_ring :
    (asleep.waiter = .parked false ∧ Wait.isInterrupted .schedule asleep.control.flags = true) ∧
      ∃ caller ∈ asleep.underWay, caller.Raises .schedule ∧ caller.rings = true := by
  let arriving : Scene := ⟨{}, .arriving, 0, none, []⟩
  let registered : Scene := ⟨{}, .registered false, 0, none, []⟩
  let parked : Scene := ⟨{}, .parked false, 0, none, []⟩
  have registers : Step .schedule none arriving registered := .wait fun _ => rfl
  have parks : Step .schedule none registered parked := .wait fun _ => rfl
  have deleted : Step .schedule none parked asleep := .signal .delete rfl
  have steps : Steps .schedule none arriving asleep :=
    .tail (.tail (.single registers) parks) deleted
  exact ⟨⟨rfl, rfl⟩, (no_lost_wakeup rfl steps).1 rfl rfl⟩

end WakeUps

end ConnectorSync.Sync
