import ConnectorSync.Dialogue
import ConnectorSync.Duration

/-!
# Stages

A stage has a clock of thousandths of a second, a world, and players who change the world and rest
until a time has come or the world calls them. While a player can move the clock stands still; when
all rest it goes on to the next time at which one does not.
-/

namespace ConnectorSync.Rehearsal

/-- What a player does: change the world, rest, or break down. -/
inductive Act (World : Type)
  | change (f : Nat → World → World)
  /-- A rest until a time, if one is given, or until the world cuts it short. -/
  | rest (until? : Nat → World → Option Nat) (cut : World → Bool)
  | halt

/-- What a player is told: after a change, the time and the world. -/
abbrev Act.Answer {World : Type} : Act World → Type
  | .change _ => Nat × World
  | .rest .. => Unit
  | .halt => Empty

abbrev Play (World : Type) := Dialogue (Act World) Act.Answer

structure Part (World A : Type) where
  get : World → A
  set : A → World → World

namespace Play

variable {World : Type}

def change (f : Nat → World → World) : Play World (Nat × World) := Dialogue.request (Act.change f)

def look : Play World (Nat × World) := change fun _ w => w

def update {α : Type} (f : Nat → World → α × World) : Play World α := do
  let (t, w) ← look
  let (a, w) := f t w
  let _ ← change fun _ _ => w
  return a

def rest (until? : Nat → World → Option Nat) (cut : World → Bool) : Play World Unit :=
  Dialogue.request (Act.rest until? cut)

def halt : Play World Empty := Dialogue.request Act.halt

def restFor (ticks : Nat) : Play World Unit := rest (fun t _ => some (t + ticks)) fun _ => false

def within {A α : Type} (p : Part World A) : Play A α → Play World α
  | .done a => .done a
  | .ask (.change f) next =>
    .ask (.change fun clock w => p.set (f clock (p.get w)) w) fun (clock, w) =>
      within p (next (clock, p.get w))
  | .ask (.rest until? cut) next =>
    .ask (.rest (fun clock w => until? clock (p.get w)) fun w => cut (p.get w)) fun () =>
      within p (next ())
  | .ask .halt _ => .ask .halt nofun

/-- A play that is repeated, each time from the state the last one left, until it has a result or
was repeated too often. -/
def repeated {σ α : Type} (turn : σ → Play World (σ ⊕ α)) : Nat → σ → Play World (Option α)
  | 0, _ => return none
  | left + 1, s => do
    match ← turn s with
    | .inl s => repeated turn left s
    | .inr a => return some a

/-- A play that ends without a result when the world cuts it short at a rest. -/
def orCut {α : Type} (isCut : World → Bool) : Play World α → Play World (Option α)
  | .done a => .done (some a)
  | .ask (.change f) next => .ask (.change f) fun seen => orCut isCut (next seen)
  | .ask (.rest until? cut) next =>
    .ask (.rest until? fun w => cut w || isCut w) fun () =>
      .ask (.change fun _ w => w) fun (_, w) =>
        if isCut w then .done none else orCut isCut (next ())
  | .ask .halt _ => .ask .halt nofun

end Play

/-- The ticks of a rest. One that would outlast the clock lasts thirty years. -/
def restTicks (span : Duration) : Nat :=
  if Duration.lastTick < span.ticks then 30 * 365 * 86400000 else span.ticks

structure Resting (World α : Type) where
  wake : Option Nat
  cut : World → Bool
  isHalted : Bool
  play : Play World α

def Resting.isOver {World α : Type} (r : Resting World α) (clock : Nat) (w : World) : Bool :=
  r.wake.any (· ≤ clock) || r.cut w

/-- A play carried on until it rests or ends. -/
def act {World α : Type} (clock : Nat) :
    Play World α → World → (α ⊕ Resting World α) × World
  | .done a, w => (.inl a, w)
  | .ask (.change f) next, w =>
    let w := f clock w
    act clock (next (clock, w)) w
  | .ask (.rest until? cut) next, w => (.inr ⟨until? clock w, cut, false, next ()⟩, w)
  | .ask .halt next, w => (.inr ⟨none, fun _ => false, true, .ask .halt next⟩, w)

/-- A play that is repeated, each time from the state the last one left, until it has a result. -/
abbrev Turn (World σ α : Type) := σ → Play World (σ ⊕ α)

/-- A repeated play carried on until it rests or has a result. The fuel bounds the repetitions
within one moment; without any left the player rests forever. -/
def actTurns {World σ α : Type} (turn : Turn World σ α) (clock : Nat) :
    Nat → Play World (σ ⊕ α) → World → (α ⊕ Resting World (σ ⊕ α)) × World
  | fuel, play, w =>
    match act clock play w with
    | (.inr resting, w) => (.inr resting, w)
    | (.inl (.inr a), w) => (.inl a, w)
    | (.inl (.inl s), w) =>
      match fuel with
      | 0 => (.inr ⟨none, fun _ => false, false, turn s⟩, w)
      | fuel + 1 => actTurns turn clock fuel (turn s) w

/-- A player whose turns have no result. -/
structure Player (World σ : Type) where
  turn : Turn World σ Unit
  resting : Resting World (σ ⊕ Unit)

/-- A clock, a world and players. -/
structure Stage (World σ : Type) where
  clock : Nat := 0
  world : World
  players : List (Player World σ) := []
  isHalted : Bool := false

namespace Stage

variable {World σ : Type}

def patience : Nat := 10000

def endurance : Nat := 10000000

def mapWorld (s : Stage World σ) (f : World → World) : Stage World σ :=
  { s with world := f s.world }

def enter (s : Stage World σ) (turn : Turn World σ Unit) (start : σ) : Stage World σ :=
  { s with players := s.players ++ [⟨turn, ⟨some s.clock, fun _ => false, false, turn start⟩⟩] }

/-- Each player who can moves; answers whether one did. -/
def moveAll (clock : Nat) : List (Player World σ) → World → List (Player World σ) × World × Bool
  | [], w => ([], w, false)
  | p :: ps, w =>
    if p.resting.isOver clock w then
      let (result, w) := actTurns p.turn clock patience p.resting.play w
      let (ps, w, _) := moveAll clock ps w
      match result with
      | .inl () => (ps, w, true)
      | .inr resting => ({ p with resting } :: ps, w, true)
    else
      let (ps, w, moved) := moveAll clock ps w
      (p :: ps, w, moved)

def settleWithin : Nat → Stage World σ → Stage World σ
  | 0, s => s
  | fuel + 1, s =>
    let (players, world, moved) := moveAll s.clock s.players s.world
    let s := { s with players, world }
    if moved then settleWithin fuel s else s

def settle (s : Stage World σ) : Stage World σ := settleWithin patience s

def earlier : Option Nat → Option Nat → Option Nat
  | some a, some b => some (min a b)
  | some a, none => some a
  | none, b => b

def nextWake (s : Stage World σ) : Option Nat :=
  s.players.foldl (fun t p => earlier t p.resting.wake) none

/-- The clock goes on to a time, with a stop whenever a player wants to move. -/
def advanceWithin : Nat → Nat → Stage World σ → Stage World σ
  | 0, limit, s => { s with clock := max s.clock limit }
  | fuel + 1, limit, s =>
    let s := s.settle
    match s.nextWake with
    | some t =>
      if t ≤ limit then advanceWithin fuel limit { s with clock := max s.clock t }
      else { s with clock := max s.clock limit }
    | none => { s with clock := max s.clock limit }

def advance (s : Stage World σ) (ticks : Nat) : Stage World σ :=
  (advanceWithin endurance (s.clock + ticks) s).settle

/-- A repeated play performed beside the players, up to a time. -/
def performWithin {τ α : Type} (turn : Turn World τ α) (limit : Nat) :
    Nat → Resting World (τ ⊕ α) → Stage World σ → Option α × Stage World σ
  | 0, _, s => (none, s)
  | fuel + 1, resting, s =>
    if resting.isOver s.clock s.world then
      let (result, world) := actTurns turn s.clock patience resting.play s.world
      let s := { s with world }
      match result with
      | .inl a => (some a, s)
      | .inr resting => performWithin turn limit fuel resting s
    else if resting.isHalted then (none, { s with isHalted := true })
    else
      let s := s.settle
      if resting.isOver s.clock s.world then performWithin turn limit fuel resting s
      else
        match earlier resting.wake s.nextWake with
        | some t =>
          if t ≤ limit then performWithin turn limit fuel resting { s with clock := max s.clock t }
          else (none, { s with clock := max s.clock limit })
        | none => (none, { s with clock := max s.clock limit })

/-- A repeated play performed beside the players for no longer than so many ticks. -/
def performTurns {τ α : Type} (s : Stage World σ) (turn : Turn World τ α) (start : τ)
    (ticks : Nat) : Option α × Stage World σ :=
  performWithin turn (s.clock + ticks) endurance ⟨some s.clock, fun _ => false, false, turn start⟩ s

/-- A play performed beside the players for no longer than so many ticks. -/
def perform {α : Type} (s : Stage World σ) (play : Play World α) (ticks : Nat) :
    Option α × Stage World σ :=
  s.performTurns (fun _ : Unit => do return .inr (← play)) () ticks

end Stage

end ConnectorSync.Rehearsal
