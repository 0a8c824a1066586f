import Mathlib.Data.List.Basic
import ConnectorSync.Documents.Store
import ConnectorSync.Proofs.Crowd
import ConnectorSync.Workload.ExitCell
import ConnectorSync.Workload.Pod.Detached

/-!
# Documents that appear while they are read

The status documents of a pod are read one after the other while its workload writes more of them,
and their keeper may be asked by several callers at once. What one pass over the documents tells lies
between what was there when it began and what is there when it ends, and each exit code has its
reason in what was there.
-/

namespace ConnectorSync.Workload.Pod

open Documents Cluster

/-! ### What a keeper looks at -/

def Written (key : PodKey) (documents : String → Option String) (status : Status) : Prop :=
  (documents (statusKey key.ns key.name status)).isSome

instance (key : PodKey) (documents : String → Option String) (status : Status) :
    Decidable (Written key documents status) :=
  inferInstanceAs (Decidable (_ = true))

/-- What the cluster told of a pod, with the documents of that moment. -/
structure Sighting where
  pod : PodStatus
  documents : String → Option String

structure Lookout where
  documents : String → Option String
  cell : ExitCell := {}
  sightings : List Sighting := []

namespace Lookout

/-- Documents that can be read are told as they are, and so is the code in the cell. -/
def Tells (s : Lookout) : (r : Request) → r.Answer → Prop
  | .document place, .ok found => found = s.documents place
  | .exitCode, code => code = s.cell.code
  | .complete code, put => put = (s.cell.complete code).1
  | _, _ => True

def after (key : PodKey) (s : Lookout) : (r : Request) → r.Answer → Lookout
  | .complete code, _ => { s with cell := s.cell.filled code }
  | .cluster (.read other), .ok (some pod) =>
    if other = key then { s with sightings := ⟨pod, s.documents⟩ :: s.sightings } else s
  | _, _ => s

end Lookout

/-- Documents of a pod appear at any time, and none of them goes away. -/
def lookout (key : PodKey) : Surroundings Request Request.Answer Lookout where
  Happens s t := ∃ documents, (∀ status, Written key s.documents status →
    Written key documents status) ∧ t = { s with documents }
  Answers s r a t := s.Tells r a ∧ t = s.after key r a

/-- What a pass over a pod's documents tells lies between what was there at its beginning and at its
end. -/
structure Between (key : PodKey) (start finish : String → Option String) (status : Status) :
    Prop where
  authoritative : ∀ other ∈ Status.precedence, Written key start other →
    Status.precedence.idxOf status ≤ Status.precedence.idxOf other
  written : status ≠ .notStarted → Written key finish status
  bare : status = .notStarted → ∀ other ∈ Status.precedence, ¬ Written key start other

/-- The reason that an exit code has in the documents and in what the cluster told. -/
structure Explained (key : PodKey) (s : Lookout) (code : Int) : Prop where
  success : code = exitSuccess → Written key s.documents .succeeded
  failure : code = exitFailed → Written key s.documents .failed
  silence : code = exitSilent ∨ code = exitOutOfMemory → ∃ sighting ∈ s.sightings,
    sighting.pod.isTerminal ∧
      ∀ status : Status, status.isTerminal → ¬ Written key sighting.documents status

namespace Lookout

variable {key : PodKey} {s t u : Lookout}

def Sound (key : PodKey) (s : Lookout) : Prop :=
  ∀ code, s.cell.code = some code → Explained key s code

/-- What callers can rely on: nothing that was seen goes away, and only codes that have a reason are
put down. -/
structure Grows (key : PodKey) (s t : Lookout) : Prop where
  written : ∀ status, Written key s.documents status → Written key t.documents status
  seen : ∀ sighting ∈ s.sightings, sighting ∈ t.sightings
  sound : s.Sound key → t.Sound key

theorem Grows.refl (s : Lookout) : s.Grows key s := ⟨fun _ h => h, fun _ h => h, fun h => h⟩

theorem Grows.trans (h : s.Grows key t) (h' : t.Grows key u) : s.Grows key u where
  written status there := h'.written status (h.written status there)
  seen sighting there := h'.seen sighting (h.seen sighting there)
  sound before := h'.sound (h.sound before)

theorem explained_of_grown {code : Int} (h : Explained key s code)
    (written : ∀ status, Written key s.documents status → Written key t.documents status)
    (seen : ∀ sighting ∈ s.sightings, sighting ∈ t.sightings) : Explained key t code where
  success same := written _ (h.success same)
  failure same := written _ (h.failure same)
  silence same := by
    obtain ⟨sighting, there, ended, bare⟩ := h.silence same
    exact ⟨sighting, seen sighting there, ended, bare⟩

theorem Grows.explained {code : Int} (h : s.Grows key t) (reason : Explained key s code) :
    Explained key t code :=
  explained_of_grown reason h.written h.seen

theorem explained_success (written : Written key s.documents .succeeded) :
    Explained key s exitSuccess where
  success _ := written
  failure same := absurd same (by decide)
  silence same := absurd same (by decide)

theorem explained_failure (written : Written key s.documents .failed) :
    Explained key s exitFailed where
  success same := absurd same (by decide)
  failure _ := written
  silence same := absurd same (by decide)

theorem explained_silence {code : Int} {sighting : Sighting}
    (silent : code = exitSilent ∨ code = exitOutOfMemory) (seen : sighting ∈ s.sightings)
    (ended : sighting.pod.isTerminal)
    (bare : ∀ status : Status, status.isTerminal → ¬ Written key sighting.documents status) :
    Explained key s code where
  success same := by
    subst same
    exact absurd silent (by decide)
  failure same := by
    subst same
    exact absurd silent (by decide)
  silence _ := ⟨sighting, seen, ended, bare⟩

theorem explained_vanished : Explained key s exitVanished where
  success same := absurd same (by decide)
  failure same := absurd same (by decide)
  silence same := absurd same (by decide)

theorem grows_of_same_cell (same : t.cell = s.cell)
    (written : ∀ status, Written key s.documents status → Written key t.documents status)
    (seen : ∀ sighting ∈ s.sightings, sighting ∈ t.sightings) : s.Grows key t := by
  refine ⟨written, seen, fun sound code there => ?_⟩
  rw [same] at there
  exact explained_of_grown (sound code there) written seen

theorem grows_of_happens (h : (lookout key).Happens s t) : s.Grows key t := by
  obtain ⟨documents, written, rfl⟩ := h
  exact grows_of_same_cell rfl written fun _ there => there

theorem grows_complete {code : Int} (reason : Explained key s code) :
    s.Grows key { s with cell := s.cell.filled code } := by
  refine ⟨fun _ there => there, fun _ there => there, fun sound other there => ?_⟩
  cases held : s.cell.code with
  | some before =>
    have same : s.cell.filled code = s.cell := by
      simp [ExitCell.filled, ExitCell.complete, held]
    simp only [same] at there
    exact explained_of_grown (sound other there) (fun _ there => there) fun _ there => there
  | none =>
    have same : s.cell.filled code = ⟨some code⟩ := by
      simp [ExitCell.filled, ExitCell.complete, held]
    simp only [same] at there
    cases there
    exact explained_of_grown reason (fun _ there => there) fun _ there => there

/-- No answer takes away what was seen, and none but to a completion changes the cell. -/
theorem grows_of_answers {r : Request} {a : r.Answer} (h : (lookout key).Answers s r a t)
    (reason : ∀ code, r = .complete code → Explained key s code) : s.Grows key t := by
  obtain ⟨-, rfl⟩ := h
  unfold after
  split
  · next code put => exact grows_complete (reason code rfl)
  · next other pod =>
    split
    · exact grows_of_same_cell rfl (fun _ there => there)
        fun _ there => List.mem_cons_of_mem _ there
    · exact .refl s
  · exact .refl s

end Lookout

abbrev shared (key : PodKey) : Surroundings Request Request.Answer Lookout :=
  (lookout key).relying (Lookout.Grows key)

theorem lasts_grows (key : PodKey) (first : Lookout) : (shared key).Lasts (first.Grows key) :=
  fun _ _ h happens => h.trans happens

/-! ### One pass over the documents -/

section Pass

variable {key : PodKey} {first s : Lookout}

theorem idxOf_le_of_passed {passed rest : List Status} {status other : Status}
    (whole : passed ++ status :: rest = Status.precedence) (later : other ∉ passed) :
    Status.precedence.idxOf status ≤ Status.precedence.idxOf other := by
  have distinct : (passed ++ status :: rest).Nodup := by
    rw [whole]
    decide
  have fresh : status ∉ passed := by
    intro there
    exact (List.nodup_append.1 distinct).2.2 status there status List.mem_cons_self rfl
  rw [← whole, List.idxOf_append_of_notMem fresh, List.idxOf_append_of_notMem later,
    List.idxOf_cons_self]
  omega

/-- A pass that has found nothing yet goes on with the statuses that are left. -/
theorem assures_rest (rest passed : List Status) (whole : passed ++ rest = Status.precedence)
    (absent : ∀ status ∈ passed, ¬ Written key first.documents status)
    (since : first.Grows key s) :
    (shared key).Assures (fun answer t => first.Grows key t ∧
        ∀ status, answer = .ok status → Between key first.documents t.documents status)
      (resolveStatus.go (fun place => ask (.document place)) key.ns key.name rest) s := by
  induction rest generalizing passed s with
  | nil =>
    refine ⟨since, ?_⟩
    rintro _ ⟨⟩
    rw [List.append_nil] at whole
    subst whole
    exact ⟨fun other listed there => absurd there (absent other listed), fun other => absurd rfl other,
      fun _ => absent⟩
  | cons status rest ih =>
    refine .request (lasts_grows key first) since fun t answer u since answers => ?_
    have grows : t.Grows key u := Lookout.grows_of_answers answers nofun
    refine ⟨grows, ?_⟩
    have still : u = t := answers.2
    subst still
    rcases answer with e | (_ | text)
    · exact ⟨since, nofun⟩
    · have missing : u.documents (statusKey key.ns key.name status) = none := answers.1.symm
      refine ih (passed ++ [status]) (by simpa using whole) (fun other listed => ?_) since
      rcases List.mem_append.1 listed with before | here
      · exact absent other before
      · intro there
        have found := since.written other there
        rw [List.mem_singleton.1 here] at found
        simp [Written, missing] at found
    · have found : u.documents (statusKey key.ns key.name status) = some text := answers.1.symm
      refine ⟨since, ?_⟩
      rintro _ ⟨⟩
      have present : Written key u.documents status := by simp [Written, found]
      refine ⟨fun other listed there => ?_, fun _ => present, fun same => ?_⟩
      · exact idxOf_le_of_passed whole fun before => absent other before there
      · have listed : status ∈ Status.precedence := by
          rw [← whole]
          simp
        rw [same] at listed
        exact absurd listed (by decide)

theorem assures_resolveStatus (first : Lookout) :
    (shared key).Assures (fun answer t => first.Grows key t ∧
        ∀ status, answer = .ok status → Between key first.documents t.documents status)
      (resolveStatus (fun place => ask (.document place)) key.ns key.name) first :=
  assures_rest Status.precedence [] rfl nofun (.refl first)

/-- Requests other than completions leave everything as it is, or add to it. -/
theorem assures_quiet {α : Type} {d : Talk α}
    (quiet : d.Within (fun r => ∀ code, r ≠ .complete code) fun _ => True)
    (since : first.Grows key s) : (shared key).Assures (fun _ t => first.Grows key t) d s := by
  induction d generalizing s with
  | done a => exact since
  | ask r next ih =>
    intro t happen a u answers
    have grows : t.Grows key u :=
      Lookout.grows_of_answers answers fun code same => absurd same (quiet.1 code)
    have since := (lasts_grows key first).happens since happen
    exact ⟨grows, ih a (quiet.2 a) (since.trans grows)⟩

end Pass

namespace Lookout

open Detached

variable {p : Detached} {first s t : Lookout}

theorem assures_status (p : Detached) (first : Lookout) :
    (shared p.key).Assures (fun answer t => first.Grows p.key t ∧
      ∀ status, answer = .ok status → Between p.key first.documents t.documents status)
      p.status first := by
  refine .bind (assures_resolveStatus first) fun answer t h => ?_
  refine ⟨h.1, fun status same => ?_⟩
  cases answer with
  | error e => cases same
  | ok found =>
    cases same
    exact h.2 _ rfl

/-! ### Exit codes -/

structure Answered (p : Detached) (first : Lookout) (answer : Except Workload.Error Int)
    (s : Lookout) : Prop where
  since : first.Grows p.key s
  reason : ∀ code, answer = .ok code → Explained p.key s code

theorem explained_of_status {status : Status} {code : Int} {documents : String → Option String}
    (between : Between p.key documents s.documents status) (hasCode : codeOf? status = some code) :
    Explained p.key s code := by
  have present : Written p.key s.documents status := by
    refine between.written fun same => ?_
    subst same
    cases hasCode
  cases status with
  | failed =>
    cases hasCode
    exact explained_failure present
  | succeeded =>
    cases hasCode
    exact explained_success present
  | _ => cases hasCode

/-- A pass that tells no terminal status began without a terminal document. -/
theorem bare_of_status {status : Status} {start finish : String → Option String}
    (between : Between p.key start finish status) (noCode : codeOf? status = none) :
    ∀ other : Status, other.isTerminal → ¬ Written p.key start other := by
  intro other terminal there
  have listed : other ∈ Status.precedence := by
    revert terminal
    cases other <;> decide
  have le := between.authoritative other listed there
  revert terminal noCode le
  cases status <;> cases other <;> decide

theorem Answered.of_since (since : first.Grows p.key s) (e : Workload.Error) :
    Answered p first (.error e) s := ⟨since, nofun⟩

theorem quiet_log (p : Detached) :
    (ranOutOfMemory p.key p.oomLogLines).Within (fun r => ∀ code, r ≠ .complete code)
      fun _ => True := by
  refine .request nofun fun answer => ?_
  cases answer with
  | error e => exact trivial
  | ok lines => exact trivial

/-- The second pass, and the log, once the cluster told that the pod has ended. -/
theorem assures_ended {sighting : Sighting} (since : first.Grows p.key s)
    (seen : sighting ∈ s.sightings) (ended : sighting.pod.isTerminal)
    (earlier : ∀ status, Written p.key sighting.documents status → Written p.key s.documents status) :
    (shared p.key).Assures (Answered p first) (ExceptT.run do
      if let some code := codeOf? (← ExceptT.mk p.status) then return code
      if ← ranOutOfMemory p.key p.oomLogLines then return exitOutOfMemory
      return exitSilent) s := by
  refine .bindRun (assures_status p s) (fun e t h => .of_since (since.trans h.1) e)
    fun status t h => ?_
  obtain ⟨grows, between⟩ := h
  have between := between status rfl
  split
  · next code hasCode =>
    refine ⟨since.trans grows, ?_⟩
    rintro _ ⟨⟩
    exact explained_of_status between hasCode
  · next noCode =>
    have noCode := Option.eq_none_iff_forall_ne_some.2 noCode
    have bare : ∀ status : Status, status.isTerminal → ¬ Written p.key sighting.documents status :=
      fun status terminal there =>
        bare_of_status between noCode status terminal (earlier status there)
    rw [run_liftM_bind]
    refine .bind (assures_quiet (quiet_log p) (.refl t)) fun ranOut u later => ?_
    have there : sighting ∈ u.sightings := later.seen _ (grows.seen _ seen)
    have since := (since.trans grows).trans later
    cases ranOut with
    | false =>
      refine ⟨since, ?_⟩
      rintro _ ⟨⟩
      exact explained_silence (.inl rfl) there ended bare
    | true =>
      refine ⟨since, ?_⟩
      rintro _ ⟨⟩
      exact explained_silence (.inr rfl) there ended bare

theorem assures_resolveExit (p : Detached) (first : Lookout) :
    (shared p.key).Assures (Answered p first) p.resolveExit first := by
  unfold resolveExit
  refine .bindRun (assures_status p first) (fun e t h => .of_since h.1 e) fun status t h => ?_
  obtain ⟨since, between⟩ := h
  split
  · next code hasCode =>
    refine ⟨since, ?_⟩
    rintro _ ⟨⟩
    exact explained_of_status (between status rfl) hasCode
  · refine .bindRun (R := fun answer u => first.Grows p.key u ∧ ∀ pod, answer = .ok (some pod) →
      ∃ sighting ∈ u.sightings, sighting.pod = pod ∧
        ∀ status, Written p.key sighting.documents status → Written p.key u.documents status)
      ?_ (fun e t h => .of_since h.1 e) fun pod u h => ?_
    · refine .request (lasts_grows p.key first) since fun t answer u since answers => ?_
      have grows : t.Grows p.key u := Lookout.grows_of_answers answers nofun
      refine ⟨grows, since.trans grows, fun pod same => ?_⟩
      obtain ⟨-, rfl⟩ := answers
      rcases answer with e | (_ | found)
      · cases same
      · cases same
      · cases same
        refine ⟨⟨pod, t.documents⟩, ?_, rfl, grows.written⟩
        simp [Lookout.after]
    · obtain ⟨since, sighted⟩ := h
      cases pod with
      | none =>
        refine ⟨since, ?_⟩
        rintro _ ⟨⟩
        exact explained_vanished
      | some pod =>
        obtain ⟨sighting, seen, same, earlier⟩ := sighted pod rfl
        cases ended : pod.isTerminal with
        | false =>
          simp only [ended]
          exact .of_since since .notTerminated
        | true =>
          simp only [ended]
          exact assures_ended since seen (same ▸ ended) earlier

theorem lasts_answered (answer : Except Workload.Error Int) :
    (shared p.key).Lasts (Answered p first answer) :=
  fun _ _ h happens => ⟨h.since.trans happens, fun code same => happens.explained (h.reason code same)⟩

theorem assures_exitValue (sound : first.Sound p.key) :
    (shared p.key).Assures (Answered p first) p.exitValue first := by
  refine .request (lasts_grows p.key first) (.refl first) fun s answer t since answers => ?_
  have grows : s.Grows p.key t := Lookout.grows_of_answers answers nofun
  obtain ⟨told, rfl⟩ := answers
  refine ⟨grows, ?_⟩
  cases answer with
  | some code =>
    refine ⟨since.trans grows, ?_⟩
    rintro _ ⟨⟩
    exact grows.explained (since.sound sound code told.symm)
  | none =>
    refine .bind (assures_resolveExit p _) fun result u h => ?_
    have h : Answered p first result u := ⟨(since.trans grows).trans h.since, h.reason⟩
    cases result with
    | error e => exact h
    | ok code =>
      refine .request (lasts_answered (.ok code)) h fun u put v h answers => ?_
      have grows : u.Grows p.key v := Lookout.grows_of_answers answers fun _ same => by
        cases same
        exact h.reason code rfl
      have h : Answered p first (.ok code) v := lasts_answered _ h grows
      refine ⟨grows, .request (lasts_answered (.ok code)) h fun v answer w h answers => ?_⟩
      have grows : v.Grows p.key w := Lookout.grows_of_answers answers nofun
      have told : answer = v.cell.code := answers.1
      refine ⟨grows, h.since.trans grows, ?_⟩
      rintro _ ⟨⟩
      cases answer with
      | none => exact grows.explained (h.reason code rfl)
      | some held => exact grows.explained (h.since.sound sound held told.symm)

/-! ### Callers -/

inductive Call
  | exitValue
  | waitFor
  | awaitExit
  deriving DecidableEq

/-- The turns of a call. Its result is the code, if it answers one. -/
def Call.turns (p : Detached) : Call → Turns Wait (Except Workload.Error (Option Int))
  | exitValue => fun _ => do return .inr ((← p.exitValue).map some)
  | waitFor => fun wait => do return (← p.waitFor wait).map id (·.map some)
  | awaitExit => fun wait => do return (← p.awaitExit wait).map id fun _ => .ok none

structure Reasoned (p : Detached) (result : Wait ⊕ Except Workload.Error (Option Int))
    (s : Lookout) : Prop where
  sound : s.Sound p.key
  reason : ∀ code, result = .inr (.ok (some code)) → Explained p.key s code

theorem lasts_reasoned (result : Wait ⊕ Except Workload.Error (Option Int)) :
    (shared p.key).Lasts (Reasoned p result) :=
  fun _ _ h happens => ⟨happens.sound h.sound, fun code same => happens.explained (h.reason code same)⟩

theorem Answered.reasoned {answer : Except Workload.Error Int} (sound : first.Sound p.key)
    (h : Answered p first answer s) : Reasoned p (.inr (answer.map some)) s := by
  refine ⟨h.since.sound sound, ?_⟩
  cases answer with
  | error e => nofun
  | ok code =>
    rintro _ ⟨⟩
    exact h.reason code rfl

theorem assures_awaitExit (sound : first.Sound p.key) (wait : Wait) :
    (shared p.key).Assures (fun _ t => t.Sound p.key) (p.awaitExit wait) first := by
  cases wait with
  | begun limit =>
    have quiet : (deadlineAfter (ask .time) (ask .breakDown) limit).Within
        (fun r => ∀ code, r ≠ .complete code) fun _ => True := by
      refine .request nofun fun now => ?_
      cases momentAfter now limit with
      | some moment => exact trivial
      | none => exact ⟨nofun, nofun⟩
    refine .bind (assures_quiet quiet (.refl first)) fun deadline t since => ?_
    exact since.sound sound
  | «until» deadline =>
    refine .bind (assures_exitValue sound) fun answer t h => ?_
    have sound := h.since.sound sound
    cases answer with
    | ok code => exact sound
    | error e =>
      refine .request (lasts_grows p.key t) (.refl t) fun u now v since answers => ?_
      have grows : u.Grows p.key v := Lookout.grows_of_answers answers nofun
      refine ⟨grows, ?_⟩
      have sound := (since.trans grows).sound sound
      split
      · exact sound
      · refine .request (lasts_grows p.key v) (.refl v) fun w done x since answers => ?_
        have grows : w.Grows p.key x := Lookout.grows_of_answers answers nofun
        exact ⟨grows, (since.trans grows).sound sound⟩

theorem assures_turns (call : Call) (wait : Wait) (sound : first.Sound p.key) :
    (shared p.key).Assures (Reasoned p) (call.turns p wait) first := by
  cases call with
  | exitValue => exact .bind (assures_exitValue sound) fun answer t h => h.reasoned sound
  | waitFor =>
    refine .bind (R := Reasoned p ∘ Sum.map id (·.map some)) ?_ fun result t h => h
    refine .bind (assures_awaitExit sound wait) fun result t sound => ?_
    rcases result with wait | (_ | _)
    · exact ⟨sound, nofun⟩
    · exact ⟨sound, nofun⟩
    · exact .bind (assures_exitValue sound) fun answer u h => h.reasoned sound
  | awaitExit =>
    refine .bind (assures_awaitExit sound wait) fun result t sound => ?_
    cases result with
    | inl wait => exact ⟨sound, nofun⟩
    | inr found => exact ⟨sound, nofun⟩

/-- Documents may appear between any two requests. A pass over them tells a status that is at least
as authoritative as what was there when it began and that is there when it ends, or that none was
there. A code that is answered to any of the callers at once has its reason: the document of the
outcome for success and failure, and for the codes of silence a pod that was seen to have ended while
there was no terminal document. -/
theorem statuses_and_codes_by_documents (empty : first.cell.code = none) {κ : Type} [DecidableEq κ]
    (calls : κ → Call) (begun : κ → Wait) :
    (∀ last status, (lookout p.key).Steps
        ⟨resolveStatus (fun place => ask (.document place)) p.key.ns p.key.name, first⟩
        ⟨.done (.ok status), last⟩ → Between p.key first.documents last.documents status) ∧
      ∀ c, Crowd.Steps (lookout p.key) (fun k => (calls k).turns p)
          ⟨fun k => .done (.inl (begun k)), first⟩ c →
        ∀ k code, c.result? k = some (.ok (some code)) → Explained p.key c.state code := by
  have sound : first.Sound p.key := by
    intro code there
    rw [empty] at there
    cases there
  refine ⟨fun last status steps => ?_, fun c steps k code answered => ?_⟩
  · have lasts (answer : Except Documents.Error Status) : (shared p.key).Lasts fun t =>
        first.Grows p.key t ∧
          ∀ status, answer = .ok status → Between p.key first.documents t.documents status := by
      intro s t h happens
      refine ⟨h.1.trans happens, fun status same => ?_⟩
      have between := h.2 status same
      exact ⟨between.authoritative, fun started => happens.written _ (between.written started),
        between.bare⟩
    exact ((assures_resolveStatus first).ended Lookout.grows_of_happens lasts steps).2 status rfl
  · have assured : Crowd.Assured (lookout p.key) (Lookout.Grows p.key) (fun _ => Reasoned p)
        ⟨fun k => .done (.inl (begun k)), first⟩ := fun k => ⟨sound, nofun⟩
    have assured := (assured.steps Lookout.grows_of_happens (fun _ => lasts_reasoned)
      (fun k stage s h => assures_turns (calls k) stage h.sound) steps).1
    exact (assured.ended (Crowd.talks_of_result? answered)).reason code rfl

/-! ### Callers that can be computed -/

def reply (key : PodKey) (s : Lookout) : (r : Request) → Option (r.Answer × Lookout)
  | .document place => some (.ok (s.documents place), s)
  | .exitCode => some (s.cell.code, s)
  | .complete code => some ((s.cell.complete code).1, s.after key (.complete code) true)
  | .cluster (.read other) =>
    let pod : PodStatus := { phase := .succeeded }
    some (.ok (some pod), s.after key (.cluster (.read other)) (.ok (some pod)))
  | .cluster (.tail ..) => some (.ok [], s)
  | _ => none

theorem answers_reply {key : PodKey} {r : Request} {a : r.Answer}
    (h : reply key s r = some (a, t)) : (lookout key).Answers s r a t := by
  unfold reply at h
  split at h <;> cases h <;> exact ⟨by first | rfl | trivial, rfl⟩

def sampled : Detached := attach {} "source-read-1-0" "source:1" "1-0"

abbrev Callers := Crowd Request Request.Answer Lookout Wait (Except Workload.Error (Option Int)) Bool

namespace Callers

/-- Both callers are about to ask for the exit code of a pod that has written nothing. -/
def idle : Callers where
  talks _ := .done (.inl (.begun longestWait))
  state := { documents := ({} : Shelf).read }

def call (c : Callers) (k : Bool) : Callers :=
  { c with talks := Function.update c.talks k (Call.exitValue.turns sampled (.begun longestWait)) }

def serve (c : Callers) (k : Bool) (answers : Nat) : Callers :=
  let x := Surroundings.served (reply sampled.key) answers ⟨c.talks k, c.state⟩
  ⟨Function.update c.talks k x.rest, x.state⟩

def succeed (c : Callers) : Callers :=
  let shelf := ({} : Shelf).writeStatus sampled.key.ns sampled.key.name .succeeded ""
  { c with state := { c.state with documents := shelf.read } }

abbrev Run : Callers → Callers → Prop :=
  Crowd.Steps (lookout sampled.key) fun _ => Call.exitValue.turns sampled

theorem run_serve (c : Callers) (k : Bool) (answers : Nat) : Run c (c.serve k answers) :=
  Crowd.Steps.advance (Surroundings.steps_served answers_reply answers _)

theorem run_call (c : Callers) (k : Bool) (there : c.talks k = .done (.inl (.begun longestWait))) :
    Run c (c.call k) :=
  .single (.turn there)

theorem run_succeed (c : Callers) (bare : ∀ status, ¬ Written sampled.key c.state.documents status) :
    Run c c.succeed :=
  .single (.happening ⟨_, fun status there => absurd there (bare status), rfl⟩)

end Callers

/-- The pod writes its document after one caller has found none and before another one looks. -/
theorem statuses_and_codes_of_twoCallers :
    (∃ last, (lookout sampled.key).Steps
        ⟨resolveStatus (fun place => ask (.document place)) sampled.key.ns sampled.key.name,
          Callers.idle.state⟩ ⟨.done (.ok .notStarted), last⟩ ∧
      Between sampled.key Callers.idle.state.documents last.documents .notStarted) ∧
    ∃ c, Callers.Run Callers.idle c ∧ c.result? false = some (.ok (some exitSuccess)) ∧
      c.result? true = some (.ok (some exitSuccess)) ∧
      Explained sampled.key c.state exitSuccess := by
  have empty : Callers.idle.state.cell.code = none := rfl
  obtain ⟨pass, exits⟩ := statuses_and_codes_by_documents (p := sampled) empty
    (fun _ : Bool => .exitValue) fun _ => .begun longestWait
  constructor
  · have steps := Surroundings.steps_served (w := lookout sampled.key) answers_reply 4
      ⟨resolveStatus (fun place => ask (.document place)) sampled.key.ns sampled.key.name,
        Callers.idle.state⟩
    exact ⟨_, steps, pass _ _ steps⟩
  · let looked := (Callers.idle.call false).serve false 11
    have bare (status : Status) : ¬ Written sampled.key looked.state.documents status :=
      Bool.false_ne_true
    have steps : Callers.Run Callers.idle (((looked.succeed.call true).serve true 5).serve false 2) :=
      (((((Callers.run_call _ false rfl).trans (Callers.run_serve _ false 11)).trans
        (Callers.run_succeed looked bare)).trans (Callers.run_call _ true rfl)).trans
        (Callers.run_serve _ true 5)).trans (Callers.run_serve _ false 2)
    exact ⟨_, steps, rfl, rfl, exits _ steps false _ rfl⟩

end Lookout

end ConnectorSync.Workload.Pod
