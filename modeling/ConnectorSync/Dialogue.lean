/-!
# Dialogues

A dialogue is a program seen from outside: it asks its surroundings for one thing after another and
goes on with each answer, until it is done. What the surroundings are and what happens in them
between two requests is left open.
-/

namespace ConnectorSync

/-- A program that asks requests and ends with a result. -/
inductive Dialogue (Request : Type) (Answer : Request → Type) (α : Type)
  | done (result : α)
  | ask (request : Request) (next : Answer request → Dialogue Request Answer α)

namespace Dialogue

variable {Request : Type} {Answer : Request → Type} {α β : Type}

def bind : Dialogue Request Answer α → (α → Dialogue Request Answer β) → Dialogue Request Answer β
  | done a, f => f a
  | ask r next, f => ask r fun answer => (next answer).bind f

instance : Monad (Dialogue Request Answer) where
  pure := done
  bind := bind

def request (r : Request) : Dialogue Request Answer (Answer r) := ask r done

/-- The dialogue carried out by surroundings that answer each request within a monad. -/
def perform {m : Type → Type} [Monad m] (answer : (r : Request) → m (Answer r)) :
    Dialogue Request Answer α → m α
  | done a => pure a
  | ask r next => do (next (← answer r)).perform answer

@[simp] theorem bind_done (d : Dialogue Request Answer α) : d.bind done = d := by
  induction d with
  | done => rfl
  | ask r next ih => simp [bind, ih]

theorem bind_assoc {γ : Type} (d : Dialogue Request Answer α) (f : α → Dialogue Request Answer β)
    (g : β → Dialogue Request Answer γ) : (d.bind f).bind g = d.bind fun a => (f a).bind g := by
  induction d with
  | done => rfl
  | ask r next ih => simp [bind, ih]

instance : LawfulMonad (Dialogue Request Answer) := LawfulMonad.mk' _
  bind_done (fun _ _ => rfl) bind_assoc

section Perform

variable {m : Type → Type} [Monad m] [LawfulMonad m] (answer : (r : Request) → m (Answer r))

theorem perform_bind (d : Dialogue Request Answer α) (f : α → Dialogue Request Answer β) :
    (d >>= f).perform answer = d.perform answer >>= fun a => (f a).perform answer := by
  induction d with
  | done a => exact (pure_bind a fun a => (f a).perform answer).symm
  | ask r next ih =>
    show (answer r >>= fun reply => (next reply >>= f).perform answer) = _
    simp only [ih, perform, LawfulMonad.bind_assoc]

end Perform

/-- A dialogue without a bound on its length, as turns: each goes from one state to the next or ends
with the result. -/
abbrev Turns (Request : Type) (Answer : Request → Type) (State α : Type) :=
  State → Dialogue Request Answer (State ⊕ α)

def Turns.thenDo {State : Type} (t : Turns Request Answer State α)
    (f : α → Dialogue Request Answer β) : Turns Request Answer State β := fun s => do
  match ← t s with
  | .inl s => return .inl s
  | .inr a => return .inr (← f a)

end Dialogue

end ConnectorSync
