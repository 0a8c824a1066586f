import Mathlib.Logic.Relation
import ConnectorSync.Dialogue

/-!
# Dialogues in their surroundings

The surroundings of a dialogue have a state that changes with every answer, and by itself between
any two of them. What a dialogue leads to, whatever happens around it, is found request by request.
-/

namespace ConnectorSync

theorem run_liftM_bind {Request : Type} {Answer : Request → Type} {α β ε : Type}
    (d : Dialogue Request Answer β) (f : β → ExceptT ε (Dialogue Request Answer) α) :
    (liftM d >>= f : ExceptT ε (Dialogue Request Answer) α).run = d >>= fun b => (f b).run := by
  change ((Except.ok <$> d) >>= ExceptT.bindCont f) = _
  rw [map_eq_pure_bind, bind_assoc]
  exact bind_congr fun b => rfl

namespace Dialogue

variable {Request : Type} {Answer : Request → Type} {α β : Type}

/-- A dialogue asks nothing but what is allowed, and its result has a property. -/
def Within (allowed : Request → Prop) (Q : α → Prop) : Dialogue Request Answer α → Prop
  | .done a => Q a
  | .ask r next => allowed r ∧ ∀ a, Within allowed Q (next a)

/-- A request that a dialogue asks if the answers before it lead there. -/
inductive CanAsk (r : Request) : Dialogue Request Answer α → Prop
  | now (next : Answer r → Dialogue Request Answer α) : CanAsk r (.ask r next)
  | later {q : Request} {next : Answer q → Dialogue Request Answer α} (a : Answer q)
    (h : CanAsk r (next a)) : CanAsk r (.ask q next)

theorem canAsk_request_bind {r q : Request} {f : Answer q → Dialogue Request Answer β} :
    (request q >>= f).CanAsk r ↔ r = q ∨ ∃ a, (f a).CanAsk r := by
  constructor
  · intro asked
    cases asked with
    | now => exact .inl rfl
    | later a h => exact .inr ⟨a, h⟩
  · rintro (rfl | ⟨a, h⟩)
    · exact .now _
    · exact .later a h

theorem not_canAsk_pure {r : Request} {a : α} :
    ¬ (pure a : Dialogue Request Answer α).CanAsk r := nofun

namespace Within

variable {allowed allowed' : Request → Prop} {Q Q' : α → Prop} {R : β → Prop}
  {d : Dialogue Request Answer α}

theorem bind {f : α → Dialogue Request Answer β} (h : d.Within allowed Q)
    (go : ∀ a, Q a → (f a).Within allowed R) : (d >>= f).Within allowed R := by
  induction d with
  | done a => exact go a h
  | ask r next ih => exact ⟨h.1, fun a => ih a (h.2 a)⟩

theorem request {r : Request} {f : Answer r → Dialogue Request Answer β} (h : allowed r)
    (go : ∀ a, (f a).Within allowed R) : (Dialogue.request r >>= f).Within allowed R :=
  ⟨h, go⟩

theorem mono (h : d.Within allowed Q) (more : ∀ r, allowed r → allowed' r)
    (weaker : ∀ a, Q a → Q' a) : d.Within allowed' Q' := by
  induction d with
  | done a => exact weaker a h
  | ask r next ih => exact ⟨more r h.1, fun a => ih a (h.2 a)⟩

theorem anything (d : Dialogue Request Answer α) : d.Within (fun _ => True) fun _ => True := by
  induction d with
  | done a => exact trivial
  | ask r next ih => exact ⟨trivial, ih⟩

theorem allows {r : Request} (h : d.Within allowed Q) (asked : d.CanAsk r) : allowed r := by
  induction asked with
  | now next => exact h.1
  | later a _ ih => exact ih (h.2 a)

theorem bindRun {ε : Type} {x : ExceptT ε (Dialogue Request Answer) α}
    {f : α → ExceptT ε (Dialogue Request Answer) β}
    (h : x.run.Within allowed fun _ => True) (go : ∀ a, (f a).run.Within allowed fun _ => True) :
    (x >>= f).run.Within allowed fun _ => True := by
  rw [ExceptT.run_bind]
  refine h.bind fun result _ => ?_
  cases result with
  | error e => exact trivial
  | ok a => exact go a

theorem liftRun {ε : Type} {f : α → ExceptT ε (Dialogue Request Answer) β}
    (h : d.Within allowed fun _ => True) (go : ∀ a, (f a).run.Within allowed fun _ => True) :
    (liftM d >>= f : ExceptT ε (Dialogue Request Answer) β).run.Within allowed fun _ => True := by
  rw [run_liftM_bind]
  exact h.bind fun a _ => go a

end Within

end Dialogue

/-- How requests are answered, and what happens by itself. -/
structure Surroundings (Request : Type) (Answer : Request → Type) (State : Type) where
  Happens : State → State → Prop
  Answers : State → (r : Request) → Answer r → State → Prop

namespace Surroundings

variable {Request : Type} {Answer : Request → Type} {State α β : Type}

/-- Surroundings in which nothing happens by itself. -/
def still (Answers : State → (r : Request) → Answer r → State → Prop) :
    Surroundings Request Answer State := ⟨fun _ _ => False, Answers⟩

/-- What a part has of the surroundings, whose requests are some of the whole's. -/
def seenBy (w : Surroundings Request Answer State) {Part : Type} (whole : Part → Request) :
    Surroundings Part (fun r => Answer (whole r)) State :=
  ⟨w.Happens, fun s r a t => w.Answers s (whole r) a t⟩

structure Scene (Request : Type) (Answer : Request → Type) (State α : Type) where
  rest : Dialogue Request Answer α
  state : State

variable (w : Surroundings Request Answer State)

inductive Step : Scene Request Answer State α → Scene Request Answer State α → Prop
  | happening (rest : Dialogue Request Answer α) {s t : State} (h : w.Happens s t) :
    Step ⟨rest, s⟩ ⟨rest, t⟩
  | answer {r : Request} (next : Answer r → Dialogue Request Answer α) {s t : State} {a : Answer r}
    (h : w.Answers s r a t) : Step ⟨.ask r next, s⟩ ⟨next a, t⟩

abbrev Steps : Scene Request Answer State α → Scene Request Answer State α → Prop :=
  Relation.ReflTransGen w.Step

/-- Nothing that happens by itself puts an end to a property. -/
def Lasts (P : State → Prop) : Prop := ∀ ⦃s t⦄, P s → w.Happens s t → P t

/-- Whatever happens around a dialogue, its result and the state at its end have a property. -/
def Leads (Q : α → State → Prop) : Dialogue Request Answer α → State → Prop
  | .done a, s => Q a s
  | .ask r next, s => ∀ t, Relation.ReflTransGen w.Happens s t →
      ∀ a u, w.Answers t r a u → Leads Q (next a) u

variable {w} {P : State → Prop} {Q : α → State → Prop} {s t : State}

theorem Lasts.happens (lasts : w.Lasts P) (h : P s) (happen : Relation.ReflTransGen w.Happens s t) :
    P t := by
  induction happen with
  | refl => exact h
  | tail _ step ih => exact lasts ih step

theorem Lasts.and {P' : State → Prop} (lasts : w.Lasts P) (lasts' : w.Lasts P') :
    w.Lasts fun s => P s ∧ P' s :=
  fun _ _ h step => ⟨lasts h.1 step, lasts' h.2 step⟩

theorem lasts_const (p : Prop) : w.Lasts fun _ => p := fun _ _ h _ => h

theorem lasts_still {Answers : State → (r : Request) → Answer r → State → Prop}
    (P : State → Prop) : (still Answers).Lasts P := fun _ _ _ happens => happens.elim

namespace Leads

theorem happens {d : Dialogue Request Answer α} (lasts : ∀ a, w.Lasts (Q a)) (h : w.Leads Q d s)
    (happen : w.Happens s t) : w.Leads Q d t := by
  cases d with
  | done a => exact lasts a h happen
  | ask r next => exact fun u later => h u (.head happen later)

theorem answered {r : Request} {next : Answer r → Dialogue Request Answer α} {a : Answer r}
    (h : w.Leads Q (.ask r next) s) (answers : w.Answers s r a t) : w.Leads Q (next a) t :=
  h s .refl a t answers

/-- What a dialogue leads to is not changed by a step of it. -/
theorem step (lasts : ∀ a, w.Lasts (Q a)) {x y : Scene Request Answer State α}
    (h : w.Leads Q x.rest x.state) (step : w.Step x y) : w.Leads Q y.rest y.state := by
  cases step with
  | happening rest happen => exact h.happens lasts happen
  | answer next answers => exact h.answered answers

theorem steps (lasts : ∀ a, w.Lasts (Q a)) {x y : Scene Request Answer State α}
    (h : w.Leads Q x.rest x.state) (steps : w.Steps x y) : w.Leads Q y.rest y.state := by
  induction steps with
  | refl => exact h
  | tail _ step ih => exact ih.step lasts step

/-- What a dialogue leads to holds when it has ended, if nothing that happens puts an end to it. -/
theorem ended (lasts : ∀ a, w.Lasts (Q a)) {d : Dialogue Request Answer α} {a : α}
    (h : w.Leads Q d s) (steps : w.Steps ⟨d, s⟩ ⟨.done a, t⟩) : Q a t :=
  h.steps lasts steps

theorem ask {r : Request} {next : Answer r → Dialogue Request Answer α} (lasts : w.Lasts P)
    (h : P s) (go : ∀ t a u, P t → w.Answers t r a u → w.Leads Q (next a) u) :
    w.Leads Q (.ask r next) s :=
  fun t happen a u answers => go t a u (lasts.happens h happen) answers

theorem request {r : Request} {f : Answer r → Dialogue Request Answer α} (lasts : w.Lasts P)
    (h : P s) (go : ∀ t a u, P t → w.Answers t r a u → w.Leads Q (f a) u) :
    w.Leads Q (Dialogue.request r >>= f) s :=
  ask lasts h go

theorem bind {d : Dialogue Request Answer β} {f : β → Dialogue Request Answer α}
    {R : β → State → Prop} (h : w.Leads R d s) (go : ∀ b t, R b t → w.Leads Q (f b) t) :
    w.Leads Q (d >>= f) s := by
  induction d generalizing s with
  | done b => exact go b s h
  | ask r next ih => exact fun t happen a u answers => ih a (h t happen a u answers)

theorem mono {R : α → State → Prop} {d : Dialogue Request Answer α} (h : w.Leads R d s)
    (weaker : ∀ a t, R a t → Q a t) : w.Leads Q d s := by
  induction d generalizing s with
  | done a => exact weaker a s h
  | ask r next ih => exact fun t happen a u answers => ih a (h t happen a u answers)

theorem bindRun {ε : Type} {x : ExceptT ε (Dialogue Request Answer) β}
    {f : β → ExceptT ε (Dialogue Request Answer) α} {Q : Except ε α → State → Prop}
    {R : Except ε β → State → Prop} (h : w.Leads R x.run s)
    (fail : ∀ e t, R (.error e) t → w.Leads Q (.done (.error e)) t)
    (go : ∀ b t, R (.ok b) t → w.Leads Q (f b).run t) : w.Leads Q (x >>= f).run s := by
  rw [ExceptT.run_bind]
  refine h.bind fun result t r => ?_
  cases result with
  | error e => exact fail e t r
  | ok b => exact go b t r

theorem liftRun {ε : Type} {d : Dialogue Request Answer β}
    {f : β → ExceptT ε (Dialogue Request Answer) α} {Q : Except ε α → State → Prop}
    {R : β → State → Prop} (h : w.Leads R d s) (go : ∀ b t, R b t → w.Leads Q (f b).run t) :
    w.Leads Q (liftM d >>= f : ExceptT ε (Dialogue Request Answer) α).run s := by
  rw [run_liftM_bind]
  exact h.bind go

/-- What every allowed answer keeps is kept by a dialogue that asks nothing else. -/
theorem of_within {allowed : Request → Prop} {R : α → Prop} {d : Dialogue Request Answer α}
    (h : d.Within allowed R) (lasts : w.Lasts P)
    (keeps : ∀ {s r a t}, allowed r → P s → w.Answers s r a t → P t) (begun : P s) :
    w.Leads (fun a s => R a ∧ P s) d s := by
  induction d generalizing s with
  | done a => exact ⟨h, begun⟩
  | ask r next ih =>
    exact .ask lasts begun fun t a u holds answers => ih a (h.2 a) (keeps h.1 holds answers)

/-- A part leads to the same as itself and within the whole. -/
theorem perform {Part : Type} {whole : Part → Request}
    {d : Dialogue Part (fun r => Answer (whole r)) α} (h : (w.seenBy whole).Leads Q d s) :
    w.Leads Q (d.perform fun r => Dialogue.request (whole r)) s := by
  induction d generalizing s with
  | done a => exact h
  | ask r next ih => exact fun t happen a u answers => ih a (h t happen a u answers)

end Leads

/-! ### At every moment -/

/-- Whatever happens around a dialogue, `always` holds at each of its moments, and its result and
the state have a property at its end. -/
def Throughout (w : Surroundings Request Answer State) (always : State → Prop)
    (Q : α → State → Prop) : Dialogue Request Answer α → State → Prop
  | .done a, s => ∀ t, Relation.ReflTransGen w.Happens s t → always t ∧ Q a t
  | .ask r next, s => ∀ t, Relation.ReflTransGen w.Happens s t → always t ∧
      ∀ a u, w.Answers t r a u → Throughout w always Q (next a) u

namespace Throughout

variable {always : State → Prop}

theorem now {d : Dialogue Request Answer α} (h : w.Throughout always Q d s) : always s := by
  cases d with
  | done a => exact (h s .refl).1
  | ask r next => exact (h s .refl).1

theorem step {x y : Scene Request Answer State α} (h : w.Throughout always Q x.rest x.state)
    (step : w.Step x y) : w.Throughout always Q y.rest y.state := by
  cases step with
  | happening rest happen =>
    cases rest with
    | done a => exact fun t later => h t (.head happen later)
    | ask r next => exact fun t later => h t (.head happen later)
  | answer next answers => exact (h _ .refl).2 _ _ answers

theorem steps {x y : Scene Request Answer State α} (h : w.Throughout always Q x.rest x.state)
    (steps : w.Steps x y) : w.Throughout always Q y.rest y.state := by
  induction steps with
  | refl => exact h
  | tail _ step ih => exact ih.step step

theorem bind {d : Dialogue Request Answer β} {f : β → Dialogue Request Answer α}
    {R : β → State → Prop} (h : w.Throughout always R d s)
    (go : ∀ b t, R b t → w.Throughout always Q (f b) t) :
    w.Throughout always Q (d >>= f) s := by
  induction d generalizing s with
  | done b => exact go b s (h s .refl).2
  | ask r next ih =>
    exact fun t happen => ⟨(h t happen).1, fun a u answers => ih a ((h t happen).2 a u answers)⟩

theorem mono {always' : State → Prop} {R : α → State → Prop} {d : Dialogue Request Answer α}
    (h : w.Throughout always Q d s) (sound : ∀ t, always t → always' t)
    (weaker : ∀ a t, Q a t → R a t) : w.Throughout always' R d s := by
  induction d generalizing s with
  | done a => exact fun t happen => (h t happen).imp (sound t) (weaker a t)
  | ask r next ih =>
    exact fun t happen => ⟨sound t (h t happen).1, fun a u answers => ih a ((h t happen).2 a u answers)⟩

theorem leads {d : Dialogue Request Answer α} (h : w.Throughout always Q d s) : w.Leads Q d s := by
  induction d generalizing s with
  | done a => exact (h s .refl).2
  | ask r next ih => exact fun t happen a u answers => ih a ((h t happen).2 a u answers)

theorem perform {Part : Type} {whole : Part → Request}
    {d : Dialogue Part (fun r => Answer (whole r)) α}
    (h : (w.seenBy whole).Throughout always Q d s) :
    w.Throughout always Q (d.perform fun r => Dialogue.request (whole r)) s := by
  induction d generalizing s with
  | done a => exact h
  | ask r next ih =>
    exact fun t happen => ⟨(h t happen).1, fun a u answers => ih a ((h t happen).2 a u answers)⟩

section Still

variable {Answers : State → (r : Request) → Answer r → State → Prop}

theorem eq_of_still (happen : Relation.ReflTransGen (still Answers).Happens s t) : t = s := by
  cases happen with
  | refl => rfl
  | tail _ step => exact step.elim

theorem done {a : α} (here : always s) (result : Q a s) :
    (still Answers).Throughout always Q (.done a) s := by
  intro t happen
  rw [eq_of_still happen]
  exact ⟨here, result⟩

theorem request {r : Request} {f : Answer r → Dialogue Request Answer α} (here : always s)
    (go : ∀ a t, Answers s r a t → (still Answers).Throughout always Q (f a) t) :
    (still Answers).Throughout always Q (Dialogue.request r >>= f) s := by
  intro t happen
  rw [eq_of_still happen]
  exact ⟨here, go⟩

/-- What no answer puts an end to holds throughout any dialogue. -/
theorem of_keeps (keeps : ∀ {s r a t}, always s → Answers s r a t → always t)
    (d : Dialogue Request Answer α) (here : always s) :
    (still Answers).Throughout always (fun _ => always) d s := by
  induction d generalizing s with
  | done a => exact done here here
  | ask r next ih => exact request here fun a t answers => ih a (keeps here answers)

end Still

end Throughout

/-! ### Turns -/

section Turns

variable {σ : Type} {turns : Dialogue.Turns Request Answer σ α}

inductive Walk (w : Surroundings Request Answer State) (turns : Dialogue.Turns Request Answer σ α) :
    Scene Request Answer State (σ ⊕ α) → Scene Request Answer State (σ ⊕ α) → Prop
  | step {x y : Scene Request Answer State (σ ⊕ α)} (h : w.Step x y) : Walk w turns x y
  | turn (stage : σ) (s : State) : Walk w turns ⟨.done (.inl stage), s⟩ ⟨turns stage, s⟩

abbrev Walks (w : Surroundings Request Answer State) (turns : Dialogue.Turns Request Answer σ α) :
    Scene Request Answer State (σ ⊕ α) → Scene Request Answer State (σ ⊕ α) → Prop :=
  Relation.ReflTransGen (w.Walk turns)

theorem Steps.walks {x y : Scene Request Answer State (σ ⊕ α)} (steps : w.Steps x y) :
    w.Walks turns x y := by
  induction steps with
  | refl => exact .refl
  | tail _ step ih => exact ih.tail (.step step)

/-- What every turn leads to from where the one before has led to is never left. -/
theorem Leads.walks {Q : σ ⊕ α → State → Prop} (lasts : ∀ result, w.Lasts (Q result))
    (next : ∀ stage s, Q (.inl stage) s → w.Leads Q (turns stage) s)
    {x y : Scene Request Answer State (σ ⊕ α)} (h : w.Leads Q x.rest x.state)
    (walks : w.Walks turns x y) : w.Leads Q y.rest y.state := by
  induction walks with
  | refl => exact h
  | tail _ walk ih =>
    cases walk with
    | step step => exact ih.step lasts step
    | turn stage s => exact next stage s ih

end Turns

/-! ### Scenes that can be computed -/

def Scene.result? (x : Scene Request Answer State α) : Option α :=
  match x.rest with
  | .done a => some a
  | .ask .. => none

theorem Scene.rest_of_result? {x : Scene Request Answer State α} {a : α} (h : x.result? = some a) :
    x.rest = .done a := by
  unfold result? at h
  split at h
  · next b same =>
    cases h
    exact same
  · cases h

theorem Steps.ended {x y : Scene Request Answer State α} {a : α} (steps : w.Steps x y)
    (h : y.result? = some a) : w.Steps x ⟨.done a, y.state⟩ := by
  rw [← Scene.rest_of_result? h]
  exact steps

variable (reply : State → (r : Request) → Option (Answer r × State))

/-- The scene after some answers of surroundings that reply as given, up to the first request that
they do not reply to. -/
def served : Nat → Scene Request Answer State α → Scene Request Answer State α
  | 0, x => x
  | _ + 1, ⟨.done a, s⟩ => ⟨.done a, s⟩
  | n + 1, ⟨.ask r next, s⟩ =>
    match reply s r with
    | none => ⟨.ask r next, s⟩
    | some (a, t) => served n ⟨next a, t⟩

variable {reply}

theorem steps_served (sound : ∀ {s r a t}, reply s r = some (a, t) → w.Answers s r a t) (n : Nat)
    (x : Scene Request Answer State α) : w.Steps x (served reply n x) := by
  induction n generalizing x with
  | zero => exact .refl
  | succ n ih =>
    obtain ⟨rest, s⟩ := x
    cases rest with
    | done a => exact .refl
    | ask r next =>
      unfold served
      cases replied : reply s r with
      | none => exact .refl
      | some answer => exact .head (.answer next (sound replied)) (ih _)

end Surroundings

end ConnectorSync
