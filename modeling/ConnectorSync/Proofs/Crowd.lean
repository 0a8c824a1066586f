import Mathlib.Logic.Function.Basic
import ConnectorSync.Proofs.Surroundings

/-!
# Dialogues side by side

Any number of dialogues that share their surroundings, of which one is answered at a time. Each
relies on what the others leave alone and leaves alone what they rely on; what it assures under this
condition it then keeps among all of them.
-/

namespace ConnectorSync

namespace Surroundings

variable {Request : Type} {Answer : Request → Type} {State α β : Type}

def relying (w : Surroundings Request Answer State) (Rely : State → State → Prop) :
    Surroundings Request Answer State := { w with Happens := Rely }

variable (w : Surroundings Request Answer State)

/-- Whatever happens around a dialogue, each answer that it gets changes nothing but what can happen
around others, and its result and the state at its end have a property. -/
def Assures (Q : α → State → Prop) : Dialogue Request Answer α → State → Prop
  | .done a, s => Q a s
  | .ask r next, s => ∀ t, Relation.ReflTransGen w.Happens s t →
      ∀ a u, w.Answers t r a u → w.Happens t u ∧ Assures Q (next a) u

variable {w} {P : State → Prop} {Q : α → State → Prop} {s t : State}

namespace Assures

theorem happens {d : Dialogue Request Answer α} (lasts : ∀ a, w.Lasts (Q a)) (h : w.Assures Q d s)
    (happen : Relation.ReflTransGen w.Happens s t) : w.Assures Q d t := by
  cases d with
  | done a => exact (lasts a).happens h happen
  | ask r next => exact fun u later => h u (happen.trans later)

theorem answered {r : Request} {next : Answer r → Dialogue Request Answer α} {a : Answer r}
    (h : w.Assures Q (.ask r next) s) (answers : w.Answers s r a t) :
    w.Happens s t ∧ w.Assures Q (next a) t :=
  h s .refl a t answers

theorem request {r : Request} {f : Answer r → Dialogue Request Answer α} (lasts : w.Lasts P)
    (h : P s)
    (go : ∀ t a u, P t → w.Answers t r a u → w.Happens t u ∧ w.Assures Q (f a) u) :
    w.Assures Q (Dialogue.request r >>= f) s :=
  fun t happen a u answers => go t a u (lasts.happens h happen) answers

theorem bind {d : Dialogue Request Answer β} {f : β → Dialogue Request Answer α}
    {R : β → State → Prop} (h : w.Assures R d s) (go : ∀ b t, R b t → w.Assures Q (f b) t) :
    w.Assures Q (d >>= f) s := by
  induction d generalizing s with
  | done b => exact go b s h
  | ask r next ih =>
    intro t happen a u answers
    obtain ⟨happens, rest⟩ := h t happen a u answers
    exact ⟨happens, ih a rest⟩

theorem bindRun {ε : Type} {x : ExceptT ε (Dialogue Request Answer) β}
    {f : β → ExceptT ε (Dialogue Request Answer) α} {Q : Except ε α → State → Prop}
    {R : Except ε β → State → Prop} (h : w.Assures R x.run s)
    (fail : ∀ e t, R (.error e) t → Q (.error e) t)
    (go : ∀ b t, R (.ok b) t → w.Assures Q (f b).run t) : w.Assures Q (x >>= f).run s := by
  rw [ExceptT.run_bind]
  refine h.bind fun result t r => ?_
  cases result with
  | error e => exact fail e t r
  | ok b => exact go b t r

/-- A dialogue that is alone keeps what it assures. -/
theorem ended {Rely : State → State → Prop} (mild : ∀ {s t}, w.Happens s t → Rely s t)
    (lasts : ∀ a, (w.relying Rely).Lasts (Q a)) {d : Dialogue Request Answer α} {a : α}
    (h : (w.relying Rely).Assures Q d s) (steps : w.Steps ⟨d, s⟩ ⟨.done a, t⟩) : Q a t := by
  have kept {x : Scene Request Answer State α} (steps : w.Steps ⟨d, s⟩ x) :
      (w.relying Rely).Assures Q x.rest x.state := by
    induction steps with
    | refl => exact h
    | tail _ step ih =>
      cases step with
      | happening rest happens => exact ih.happens lasts (.single (mild happens))
      | answer next answers => exact (ih.answered answers).2
  exact kept steps

end Assures

/-- Where every answer is something that can happen around others, what a dialogue leads to is what
it assures. -/
theorem Leads.assures (shared : ∀ {s r a t}, w.Answers s r a t → w.Happens s t)
    {d : Dialogue Request Answer α} (h : w.Leads Q d s) : w.Assures Q d s := by
  induction d generalizing s with
  | done a => exact h
  | ask r next ih =>
    intro t happen a u answers
    exact ⟨shared answers, ih a (h t happen a u answers)⟩

/-- Where every answer is something that can happen, so is what a dialogue goes through. -/
theorem Leads.since (shared : ∀ {s r a t}, w.Answers s r a t → w.Happens s t)
    (d : Dialogue Request Answer α) (s : State) :
    w.Leads (fun _ t => Relation.ReflTransGen w.Happens s t) d s := by
  induction d generalizing s with
  | done a => exact .refl
  | ask r next ih =>
    intro t happen a u answers
    exact (ih a u).mono fun _ _ later => (happen.tail (shared answers)).trans later

end Surroundings

/-- Dialogues side by side with the state they share. Each is a turn of something longer, or has
ended. -/
structure Crowd (Request : Type) (Answer : Request → Type) (State σ α κ : Type) where
  talks : κ → Dialogue Request Answer (σ ⊕ α)
  state : State

namespace Crowd

variable {Request : Type} {Answer : Request → Type} {State σ α κ : Type}

def result? (c : Crowd Request Answer State σ α κ) (k : κ) : Option α :=
  match c.talks k with
  | .done (.inr a) => some a
  | _ => none

theorem talks_of_result? {c : Crowd Request Answer State σ α κ} {k : κ} {a : α}
    (h : c.result? k = some a) : c.talks k = .done (.inr a) := by
  unfold result? at h
  split at h
  · next there =>
    cases h
    exact there
  · cases h

section Assured

variable {w : Surroundings Request Answer State} {Rely : State → State → Prop}
  {Q : κ → σ ⊕ α → State → Prop} {c : Crowd Request Answer State σ α κ}

def Assured (w : Surroundings Request Answer State) (Rely : State → State → Prop)
    (Q : κ → σ ⊕ α → State → Prop) (c : Crowd Request Answer State σ α κ) : Prop :=
  ∀ k, (w.relying Rely).Assures (Q k) (c.talks k) c.state

theorem Assured.ended {k : κ} {a : α} (h : Assured w Rely Q c)
    (there : c.talks k = .done (.inr a)) : Q k (.inr a) c.state := by
  have own := h k
  rw [there] at own
  exact own

end Assured

variable [DecidableEq κ]

inductive Step (w : Surroundings Request Answer State)
    (turns : κ → Dialogue.Turns Request Answer σ α) :
    Crowd Request Answer State σ α κ → Crowd Request Answer State σ α κ → Prop
  | happening {c : Crowd Request Answer State σ α κ} {t : State} (h : w.Happens c.state t) :
    Step w turns c { c with state := t }
  | turn {c : Crowd Request Answer State σ α κ} {k : κ} {stage : σ}
    (there : c.talks k = .done (.inl stage)) :
    Step w turns c { c with talks := Function.update c.talks k (turns k stage) }
  | answer {c : Crowd Request Answer State σ α κ} {k : κ} {r : Request}
    {next : Answer r → Dialogue Request Answer (σ ⊕ α)} {a : Answer r} {t : State}
    (there : c.talks k = .ask r next) (h : w.Answers c.state r a t) :
    Step w turns c ⟨Function.update c.talks k (next a), t⟩

abbrev Steps (w : Surroundings Request Answer State)
    (turns : κ → Dialogue.Turns Request Answer σ α) :
    Crowd Request Answer State σ α κ → Crowd Request Answer State σ α κ → Prop :=
  Relation.ReflTransGen (Step w turns)

section Runs

variable {w : Surroundings Request Answer State} {turns : κ → Dialogue.Turns Request Answer σ α}
  {Rely : State → State → Prop} {Q : κ → σ ⊕ α → State → Prop}
  {c c' : Crowd Request Answer State σ α κ}

/-- A step of one dialogue is something that happens around the others. -/
theorem Assured.update {k : κ} {talk : Dialogue Request Answer (σ ⊕ α)} {t : State}
    (lasts : ∀ k result, (w.relying Rely).Lasts (Q k result)) (h : Assured w Rely Q c)
    (happen : Relation.ReflTransGen Rely c.state t)
    (own : (w.relying Rely).Assures (Q k) talk t) :
    Assured w Rely Q ⟨Function.update c.talks k talk, t⟩ := by
  intro j
  by_cases same : j = k
  · subst same
    simp only [Function.update_self]
    exact own
  · simp only [Function.update_of_ne same]
    exact (h j).happens (lasts j) happen

/-- An answer to one dialogue is something that happens around the others. -/
theorem Assured.step (mild : ∀ {s t}, w.Happens s t → Rely s t)
    (lasts : ∀ k result, (w.relying Rely).Lasts (Q k result))
    (turn : ∀ k stage s, Q k (.inl stage) s → (w.relying Rely).Assures (Q k) (turns k stage) s)
    (h : Assured w Rely Q c) (step : Step w turns c c') :
    Assured w Rely Q c' ∧ Relation.ReflTransGen Rely c.state c'.state := by
  cases step with
  | happening happens =>
    have happen := Relation.ReflTransGen.single (mild happens)
    exact ⟨fun k => (h k).happens (lasts k) happen, happen⟩
  | @turn k stage there =>
    have own := h k
    rw [there] at own
    exact ⟨h.update lasts .refl (turn k stage _ own), .refl⟩
  | @answer k r next a t there answers =>
    have own := h k
    rw [there] at own
    obtain ⟨happens, rest⟩ := own.answered answers
    have happen := Relation.ReflTransGen.single happens
    exact ⟨h.update lasts happen rest, happen⟩

/-- What every dialogue of a crowd assures holds throughout. -/
theorem Assured.steps (mild : ∀ {s t}, w.Happens s t → Rely s t)
    (lasts : ∀ k result, (w.relying Rely).Lasts (Q k result))
    (turn : ∀ k stage s, Q k (.inl stage) s → (w.relying Rely).Assures (Q k) (turns k stage) s)
    (h : Assured w Rely Q c) (steps : Steps w turns c c') :
    Assured w Rely Q c' ∧ Relation.ReflTransGen Rely c.state c'.state := by
  induction steps with
  | refl => exact ⟨h, .refl⟩
  | tail _ step ih =>
    obtain ⟨assured, happen⟩ := ih
    obtain ⟨assured, happens⟩ := assured.step mild lasts turn step
    exact ⟨assured, happen.trans happens⟩

/-- One of the dialogues goes on while the others rest. -/
theorem Steps.advance {k : κ} {x : Surroundings.Scene Request Answer State (σ ⊕ α)}
    (steps : w.Steps ⟨c.talks k, c.state⟩ x) :
    Steps w turns c ⟨Function.update c.talks k x.rest, x.state⟩ := by
  induction steps with
  | refl =>
    simp only [Function.update_eq_self]
    exact .refl
  | tail _ step ih =>
    cases step with
    | happening rest happens => exact ih.tail (.happening happens)
    | @answer r next s t a answers =>
      have there : Function.update c.talks k (.ask r next) k = .ask r next :=
        Function.update_self ..
      have step : Step w turns ⟨Function.update c.talks k (.ask r next), s⟩ _ :=
        .answer there answers
      simp only [Function.update_idem] at step
      exact ih.tail step

end Runs

end Crowd

end ConnectorSync
