import ConnectorSync.Proofs.Docker.Creation
import ConnectorSync.Proofs.Host.Files
import ConnectorSync.Proofs.Sync.Disposal

/-!
# Attempts over containers

An execution whose connectors run in containers of the host, as one dialogue: a launch creates a
container and a destruction destroys it. Its moments lie between two requests. What was asked,
answered and done to the host's files so far is kept as its past.
-/

namespace ConnectorSync.Docker

open Launch Sync

inductive Ask
  | keeper (r : Request)
  | suffix
  | deed (d : Deed)
  | launched (h : Handle) (c : Container)
  | ending (h : Handle)

abbrev Ask.Answer : Ask → Type
  | keeper r => r.Answer
  | suffix => String
  | deed d => d.Answer
  | launched .. | ending _ => Unit

abbrev Session := Dialogue Ask Ask.Answer

abbrev tell (a : Ask) : Session a.Answer := Dialogue.request a

def onKeeper {α : Type} (t : Talk α) : Session α := t.perform fun r => tell (.keeper r)

/-- An execution over containers, with those that were launched so far. -/
def overContainers {α : Type} (config : Launch.Config) : List Container → Doing α → Session α
  | _, .done a => .done a
  | cs, .ask (.launch d) next => do
    let suffix ← tell .suffix
    match ← onKeeper (Container.create config d (d.processName suffix containerNameLimit)) with
    | .error e => overContainers config cs (next (.error e))
    | .ok c =>
      tell (.launched cs.length c)
      overContainers config (cs ++ [c]) (next (.ok cs.length))
  | cs, .ask (.destroy h) next => do
    tell (.ending h)
    if let some c := cs[h]? then
      onKeeper c.destroy
    overContainers config cs (next (.ok ()))
  | cs, .ask d next => do overContainers config cs (next (← tell (.deed d)))

/-- Something asked, with its answer and what was done to the host's files. -/
structure Event where
  ask : Ask
  answer : ask.Answer
  effect : Host.Effect := .nothing

namespace Event

abbrev ofHost (r : Host.Request) (answer : r.Answer) (effect : Host.Effect) : Event :=
  ⟨.keeper (.host r), answer, effect⟩

/-- A text was written to a file of a directory. -/
def wrote (dir name text : String) : Event :=
  let path := Files.join dir name
  ofHost (.writeFile path (Text.bytes text)) (.ok ()) (.put path (Text.bytes text))

def launched (h : Handle) (c : Container) : Event := ⟨.launched h c, (), .nothing⟩

def ending (h : Handle) : Event := ⟨.ending h, (), .nothing⟩

/-- A write to a file that failed has left a part in it. -/
def LeftPart (e : Event) (path : String) (part : Bytes) : Prop :=
  ∃ contents fault, e = ofHost (.writeFile path contents) (.error fault) (.put path part)

/-- A removal, whether or not it failed, has taken what was at a place. -/
def Took (e : Event) (p : Files.Place) : Prop := ∃ gone, e.effect = .removed gone ∧ gone p

end Event

structure Course where
  tree : Files.Tree
  past : List Event := []

def Course.after (s : Course) (tree : Files.Tree) (e : Event) : Course := ⟨tree, s.past ++ [e]⟩

inductive Answers (s : Course) : (a : Ask) → a.Answer → Course → Prop
  | host {r : Host.Request} {answer : r.Answer} {effect : Host.Effect} {tree : Files.Tree}
    (h : Host.Answers s.tree r answer effect tree) :
    Answers s (.keeper (.host r)) answer (s.after tree (.ofHost r answer effect))
  | other (a : Ask) (answer : a.Answer) (apart : ∀ r, a ≠ .keeper (.host r)) :
    Answers s a answer (s.after s.tree ⟨a, answer, .nothing⟩)

def around : Surroundings Ask Ask.Answer Course := .still Answers

abbrev Scene (α : Type) := Surroundings.Scene Ask Ask.Answer Course α

/-- The execution of an attempt over containers before its first step. -/
def first (config : Launch.Config) (c : Option Connection) (context : AttemptContext)
    (t : Files.Tree) : Scene (Except ActivityError AttemptOutcome) :=
  ⟨overContainers config [] (Execution.execute c context), { tree := t }⟩

variable {α β : Type} {always : Course → Prop} {Q : α → Course → Prop} {s t : Course}

theorem eq_of_apart {a : Ask} {answer : a.Answer} (answers : Answers s a answer t)
    (apart : ∀ r, a ≠ .keeper (.host r)) : t = s.after s.tree ⟨a, answer, .nothing⟩ := by
  cases answers with
  | host => exact absurd rfl (apart _)
  | other => rfl

theorem exists_of_host {r : Host.Request} {answer : r.Answer}
    (answers : Answers s (.keeper (.host r)) answer t) :
    ∃ effect tree, Host.Answers s.tree r answer effect tree ∧
      t = s.after tree (.ofHost r answer effect) := by
  cases answers with
  | host h => exact ⟨_, _, h, rfl⟩
  | other _ _ apart => exact absurd rfl (apart r)

theorem mem_past_of_answers {e : Event} {a : Ask} {answer : a.Answer} {t : Course}
    (mem : e ∈ s.past) (answers : Answers s a answer t) : e ∈ t.past := by
  cases answers with
  | host => exact List.mem_append_left _ mem
  | other => exact List.mem_append_left _ mem

/-! ### Launches, destructions and what lies between -/

abbrev KeeperAnswers (s : Course) (r : Request) (answer : r.Answer) (t : Course) : Prop :=
  Answers s (.keeper r) answer t

section

variable {config : Launch.Config} {cs : List Container}

/-- A launch goes through the stages of a creation, and goes on from where that ends. -/
theorem throughout_launch {d : Descriptor} {k : Except Launch.Error Handle → Doing α}
    (p : Creation KeeperAnswers (jobRoot config.workspaceRoot d) d.files.entries)
    (sound : ∀ s, p.always s → always s) (begun : always s)
    (ready : ∀ suffix : String, p.ready (s.after s.tree ⟨.suffix, suffix, .nothing⟩))
    (onError : ∀ e t, p.failed e t →
      around.Throughout always Q (overContainers config cs (k (.error e))) t)
    (onLaunch : ∀ c t, c.jobRoot = jobRoot config.workspaceRoot d → p.upTo d.files.entries t →
      around.Throughout always Q (overContainers config (cs ++ [c]) (k (.ok cs.length)))
        (t.after t.tree (.launched cs.length c))) :
    around.Throughout always Q (overContainers config cs (Execution.demand (.launch d) >>= k))
      s := by
  show around.Throughout always Q (overContainers config cs (.ask (.launch d) k)) s
  rw [overContainers]
  refine .request begun fun suffix t answers => ?_
  rw [eq_of_apart answers nofun]
  refine .bind (.mono (.perform (p.create (ready suffix) _)) sound fun _ _ h => h)
    fun result t ended => ?_
  cases result with
  | error e => exact onError e t ended
  | ok c =>
    refine .request (sound t (p.always_of_upTo ended.2)) fun _ u answers => ?_
    rw [eq_of_apart answers nofun]
    exact onLaunch c t ended.1 ended.2

theorem overContainers_quiet {d : Deed} (quiet : d.IsQuiet) (k : d.Answer → Doing α) :
    overContainers config cs (.ask d k) =
      tell (.deed d) >>= fun reply => overContainers config cs (k reply) := by
  cases d with
  | launch | destroy => exact quiet.elim
  | _ => rfl

/-- What deeds do not change holds until they are done. -/
theorem throughout_quiet {q : Doing β} {k : β → Doing α} {P : Course → Prop}
    (quiet : q.Within Deed.IsQuiet fun _ => True) (sound : ∀ s, P s → always s)
    (deed : ∀ s (d : Deed) reply, P s → P (s.after s.tree ⟨.deed d, reply, .nothing⟩))
    (begun : P s)
    (go : ∀ b t, P t → around.Throughout always Q (overContainers config cs (k b)) t) :
    around.Throughout always Q (overContainers config cs (q >>= k)) s := by
  induction q generalizing s with
  | done b => exact go b s begun
  | ask d next ih =>
    show around.Throughout always Q (overContainers config cs (.ask d fun a => next a >>= k)) s
    rw [overContainers_quiet quiet.1]
    refine .request (sound s begun) fun reply t answers => ?_
    rw [eq_of_apart answers nofun]
    exact ih reply (quiet.2 reply) (deed s d reply begun)

end

/-! ### A host that carries out what it is asked -/

/-- The answers of such a host to what is asked while containers are created. -/
def reply (s : Course) : (a : Ask) → Option (a.Answer × Course)
  | .keeper (.host r) => (Host.carryOut true s.tree r).map fun (answer, effect, tree) =>
    (answer, s.after tree (.ofHost r answer effect))
  | .suffix => some ("", s.after s.tree ⟨.suffix, "", .nothing⟩)
  | .launched h c => some ((), s.after s.tree (.launched h c))
  | _ => none

theorem answers_reply {a : Ask} {answer : a.Answer} (replied : reply s a = some (answer, t)) :
    Answers s a answer t := by
  cases a with
  | keeper r =>
    cases r with
    | host r =>
      obtain ⟨⟨answer, effect, tree⟩, served, same⟩ := Option.map_eq_some_iff.1 replied
      cases same
      exact .host (Host.answers_carryOut served)
    | _ => cases replied
  | suffix | launched =>
    cases replied
    exact .other _ _ nofun
  | deed | ending => cases replied

def launches (past : List Event) : List (Handle × Container) :=
  past.filterMap fun
    | ⟨.launched h c, _, .nothing⟩ => some (h, c)
    | _ => none

def endings (past : List Event) : List Handle :=
  past.filterMap fun
    | ⟨.ending h, _, .nothing⟩ => some h
    | _ => none

theorem launched_mem_iff {past : List Event} {h : Handle} {c : Container} :
    .launched h c ∈ past ↔ (h, c) ∈ launches past := by
  unfold launches
  rw [List.mem_filterMap]
  constructor
  · intro mem
    exact ⟨_, mem, rfl⟩
  · rintro ⟨e, mem, same⟩
    split at same
    · cases same
      exact mem
    · cases same

theorem ending_mem_iff {past : List Event} {h : Handle} : .ending h ∈ past ↔ h ∈ endings past := by
  unfold endings
  rw [List.mem_filterMap]
  constructor
  · intro mem
    exact ⟨_, mem, rfl⟩
  · rintro ⟨e, mem, same⟩
    split at same
    · cases same
      exact mem
    · cases same

end ConnectorSync.Docker
