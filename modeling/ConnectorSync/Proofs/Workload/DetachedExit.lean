import ConnectorSync.Proofs.Documents.Keys
import ConnectorSync.Proofs.Surroundings
import ConnectorSync.Workload.ExitCell
import ConnectorSync.Workload.Pod.Detached

/-!
# The exit code of a detached pod

A detached workload writes how it ended, and its pod goes away after that. Its keeper looks at the
documents and at the cluster one after the other, so what it finds depends on where its looks fall:
only a look at the document after it was written tells how the workload ended.
-/

namespace ConnectorSync

namespace Workload.Pod.Detached

open Documents Cluster

inductive Event
  | wrote (status : Status)
  | removed
  | putDown (code : Int)
  | told (r : Request) (answer : r.Answer)

/-- The store, the cluster and the cell that a keeper asks, and what has happened, latest first. -/
structure Site where
  shelf : Shelf := {}
  pod : Option PodStatus
  cell : ExitCell := {}
  past : List Event := []

variable (p : Detached) (outcome : Status)

abbrev place (status : Status) : String := statusKey p.key.ns p.key.name status

namespace Site

def document (s : Site) (status : Status) : Option String := s.shelf.read (p.place status)

def write (s : Site) (status : Status) (contents : String) : Site :=
  { s with
    shelf := s.shelf.writeStatus p.key.ns p.key.name status contents
    past := .wrote status :: s.past }

def remove (s : Site) : Site := { s with pod := none, past := .removed :: s.past }

@[simp] theorem past_write (s : Site) (status : Status) (contents : String) :
    (s.write p status contents).past = .wrote status :: s.past := rfl

@[simp] theorem cell_write (s : Site) (status : Status) (contents : String) :
    (s.write p status contents).cell = s.cell := rfl

@[simp] theorem past_remove (s : Site) : s.remove.past = .removed :: s.past := rfl

@[simp] theorem cell_remove (s : Site) : s.remove.cell = s.cell := rfl

end Site

/-- What happens around a pod whose workload ends with an outcome: it writes documents, of the
terminal ones only that of its outcome, and the pod goes away only after that one was written. -/
inductive Happens : Site → Site → Prop
  | write (s : Site) (status : Status) (contents : String)
    (own : status.isTerminal → status = outcome) :
    Happens s (s.write p status contents)
  | elsewhere (s : Site) (shelf : Shelf)
    (same : ∀ status, shelf.read (p.place status) = s.document p status) :
    Happens s { s with shelf := shelf }
  | report (s : Site) (pod : PodStatus) (present : s.pod.isSome) :
    Happens s { s with pod := some pod }
  | remove (s : Site) (written : .wrote outcome ∈ s.past) :
    Happens s s.remove
  | putDown (s : Site) (code : Int) (empty : s.cell.code = none) :
    Happens s { s with cell := ⟨some code⟩, past := .putDown code :: s.past }

namespace Site

/-- The store and the cluster answer with what is there or fail. -/
def Tells (s : Site) : (r : Request) → r.Answer → Prop
  | .document key, answer => answer = .ok (s.shelf.read key) ∨ ∃ e, answer = .error e
  | .cluster (.read key), answer => key = p.key → answer = .ok s.pod ∨ ∃ e, answer = .error e
  | .exitCode, answer => answer = s.cell.code
  | .complete code, answer => answer = (s.cell.complete code).1
  | _, _ => True

def after (s : Site) (r : Request) (answer : r.Answer) : Site where
  shelf := s.shelf
  pod := s.pod
  cell := match r with
    | .complete code => s.cell.filled code
    | _ => s.cell
  past := .told r answer :: s.past

@[simp] theorem past_after (s : Site) (r : Request) (answer : r.Answer) :
    (s.after r answer).past = .told r answer :: s.past := rfl

end Site

def around : Surroundings Request Request.Answer Site where
  Happens := Happens p outcome
  Answers s r answer t := s.Tells p r answer ∧ t = s.after r answer

structure Site.Fresh (s : Site) : Prop where
  unwritten : ∀ status : Status, status.isTerminal → s.document p status = none
  present : s.pod.isSome
  begun : s.past = []

/-! ### What a look is told -/

/-- The outcome's document was asked for after it was written. -/
def Looked : List Event → Prop
  | [] => False
  | .told (.document key) _ :: past =>
    key = p.place outcome ∧ .wrote outcome ∈ past ∨ Looked past
  | _ :: past => Looked past

/-- The cluster told that the pod is gone, after the outcome's document was written. -/
def ToldGone (past : List Event) : Prop :=
  ∃ later earlier, past = later ++ .told (.cluster (.read p.key)) (.ok none) :: earlier ∧
    .wrote outcome ∈ earlier

def ToldEnded (past : List Event) : Prop :=
  ∃ pod : PodStatus, .told (.cluster (.read p.key)) (.ok (some pod)) ∈ past ∧ pod.isTerminal

def ToldMemory (past : List Event) : Prop :=
  ∃ lines, .told (.cluster (.tail p.key Launch.mainContainer p.oomLogLines)) (.ok lines) ∈ past ∧
    tellsOutOfMemory lines

structure Finds (past : List Event) (code : Int) : Prop where
  looked : Looked p outcome past → codeOf? outcome = some code
  unlooked : ¬ Looked p outcome past →
    ToldGone p outcome past ∧ code = exitVanished ∨
      ToldEnded p past ∧ (ToldMemory p past ∧ code = exitOutOfMemory ∨
        ¬ ToldMemory p past ∧ code = exitSilent)

/-! ### What a look finds -/

theorem isSome_codeOf? (status : Status) : (codeOf? status).isSome = status.isTerminal := by
  cases status <;> rfl

variable {p outcome} {first s t : Site}

structure Sound (p : Detached) (outcome : Status) (first s : Site) : Prop where
  written : (s.document p outcome).isSome ↔ .wrote outcome ∈ s.past
  only : ∀ status : Status, status.isTerminal → status ≠ outcome → s.document p status = none
  gone : s.pod = none → .wrote outcome ∈ s.past
  cell : ∀ code, s.cell.code = some code ↔ first.cell.code = some code ∨ .putDown code ∈ s.past

theorem Site.Fresh.sound (fresh : first.Fresh p) (terminal : outcome.isTerminal) :
    Sound p outcome first first where
  written := by simp [fresh.unwritten outcome terminal, fresh.begun]
  only status isTerminal _ := fresh.unwritten status isTerminal
  gone none := by
    have present := fresh.present
    rw [none] at present
    contradiction
  cell code := by simp [fresh.begun]

theorem Site.document_write (s : Site) (status other : Status) (contents : String) :
    (s.write p status contents).document p other =
      if other = status then some contents else s.document p other := by
  unfold Site.document Site.write
  rw [Shelf.read_writeStatus]
  by_cases same : other = status
  · rw [if_pos same, if_pos (by rw [same])]
  · rw [if_neg same, if_neg fun keys => same (statusKey_inj.1 keys).2]

theorem Sound.happens (h : Sound p outcome first s) (happens : Happens p outcome s t) :
    Sound p outcome first t := by
  cases happens with
  | write status contents own =>
    refine ⟨?_, ?_, fun none => List.mem_cons_of_mem _ (h.gone none), ?_⟩
    · rw [Site.document_write]
      by_cases same : outcome = status
      · simp [same]
      · simp [same, h.written]
    · intro other terminal different
      rw [Site.document_write, if_neg]
      · exact h.only other terminal different
      · intro same
        subst same
        exact different (own terminal)
    · simpa using h.cell
  | elsewhere shelf same =>
    refine ⟨?_, ?_, h.gone, h.cell⟩
    · rw [← h.written]
      exact iff_of_eq (congrArg (Option.isSome · = true) (same outcome))
    · intro status terminal different
      exact (same status).trans (h.only status terminal different)
  | report pod present => exact ⟨h.written, h.only, nofun, h.cell⟩
  | remove written =>
    refine ⟨?_, h.only, fun _ => List.mem_cons_of_mem _ written, by simpa using h.cell⟩
    simpa [Site.document, Site.remove] using h.written
  | putDown code empty =>
    refine ⟨?_, h.only, fun gone => List.mem_cons_of_mem _ (h.gone gone), fun other => ?_⟩
    · simpa [Site.document] using h.written
    · have before := h.cell other
      rw [empty] at before
      simp only [reduceCtorEq, false_iff, not_or] at before
      simp [before.1, before.2, eq_comm]

theorem Sound.after (h : Sound p outcome first s) (r : Request) (answer : r.Answer)
    (same : (s.after r answer).cell = s.cell) : Sound p outcome first (s.after r answer) where
  written := by simpa [Site.after, Site.document] using h.written
  only := h.only
  gone none := List.mem_cons_of_mem _ (h.gone none)
  cell code := by
    rw [same]
    simpa [Site.after] using h.cell code

theorem lasts_sound : (around p outcome).Lasts (Sound p outcome first) :=
  fun _ _ h happens => h.happens happens

/-- What is said of the things told alone is not changed by what happens around. -/
theorem lasts_told (P : List Event → Prop)
    (quiet : ∀ e past, (∀ r answer, e ≠ .told r answer) → P past → P (e :: past)) :
    (around p outcome).Lasts fun s => P s.past := by
  intro s t h happens
  cases happens with
  | write | remove | putDown => exact quiet _ _ (fun _ _ same => by cases same) h
  | elsewhere | report => exact h

theorem looked_cons {e : Event} {past : List Event}
    (quiet : ∀ r answer, e ≠ .told r answer) :
    Looked p outcome (e :: past) ↔ Looked p outcome past := by
  cases e with
  | told r answer => exact absurd rfl (quiet r answer)
  | wrote | removed | putDown => rfl

theorem looked_told_document {key : String} {answer} {past : List Event} :
    Looked p outcome (.told (.document key) answer :: past) ↔
      key = p.place outcome ∧ .wrote outcome ∈ past ∨ Looked p outcome past :=
  .rfl

/-! ### One look -/

/-- A status was resolved: it is the outcome, by a look at its document after it was written, or it
is not terminal, and there was no such look yet. -/
def Resolved (p : Detached) (outcome : Status) (past : List Event) (status : Status) : Prop :=
  status = outcome ∧ Looked p outcome past ∨ status.isTerminal = false ∧ ¬ Looked p outcome past

def Keeps (F : List Event → Prop) : Prop :=
  ∀ e past, (∀ r answer, e = .told r answer → ∃ key, r = .document key) → F past → F (e :: past)

theorem Keeps.lasts {F : List Event → Prop} (keeps : Keeps F) :
    (around p outcome).Lasts fun s => F s.past :=
  lasts_told F fun e past quiet h =>
    keeps e past (fun r answer same => absurd same (quiet r answer)) h

theorem lasts_unlooked : (around p outcome).Lasts fun s => ¬ Looked p outcome s.past :=
  lasts_told (¬ Looked p outcome ·) fun _ _ quiet unlooked looked =>
    unlooked ((looked_cons quiet).1 looked)

structure Answered {ε : Type} (p : Detached) (outcome : Status) (first : Site)
    (F : List Event → Prop) (answer : Except ε Status) (s : Site) : Prop where
  sound : Sound p outcome first s
  kept : F s.past
  resolved : ∀ status, answer = .ok status → Resolved p outcome s.past status

/-- Looking at the documents of some statuses, one after the other. -/
theorem leads_resolve {F : List Event → Prop} (keeps : Keeps F) (rest : List Status)
    (sound : Sound p outcome first s) (unlooked : ¬ Looked p outcome s.past) (kept : F s.past) :
    (around p outcome).Leads (Answered p outcome first F)
      (resolveStatus.go (fun key => ask (.document key)) p.key.ns p.key.name rest) s := by
  induction rest generalizing s with
  | nil =>
    refine ⟨sound, kept, ?_⟩
    rintro _ ⟨⟩
    exact .inr ⟨rfl, unlooked⟩
  | cons status rest ih =>
    refine .request (lasts_sound.and (lasts_unlooked.and keeps.lasts)) ⟨sound, unlooked, kept⟩ ?_
    rintro t answer _ ⟨sound, unlooked, kept⟩ ⟨tells, rfl⟩
    have sound' := sound.after (.document (p.place status)) answer rfl
    have kept' : F (t.after (.document (p.place status)) answer).past :=
      keeps _ _ (by rintro _ _ ⟨⟩; exact ⟨_, rfl⟩) kept
    have looked : Looked p outcome (t.after (.document (p.place status)) answer).past ↔
        status = outcome ∧ .wrote outcome ∈ t.past := by
      unfold Site.after
      rw [looked_told_document, or_iff_left unlooked]
      exact and_congr_left fun _ => ⟨fun keys => (statusKey_inj.1 keys).2, congrArg p.place⟩
    rcases tells with told | ⟨e, rfl⟩
    · cases found : t.document p status with
      | none =>
        obtain rfl : answer = .ok none := told.trans (congrArg _ found)
        refine ih sound' (fun looks => ?_) kept'
        obtain ⟨rfl, wrote⟩ := looked.1 looks
        have present := sound.written.2 wrote
        rw [found] at present
        contradiction
      | some text =>
        obtain rfl : answer = .ok (some text) := told.trans (congrArg _ found)
        refine ⟨sound', kept', ?_⟩
        rintro _ ⟨⟩
        by_cases same : status = outcome
        · refine .inl ⟨same, looked.2 ⟨same, sound.written.1 ?_⟩⟩
          rw [← same, found]
          rfl
        · refine .inr ⟨Bool.eq_false_iff.2 fun terminal => ?_, fun looks => same (looked.1 looks).1⟩
          have absent := sound.only status terminal same
          rw [found] at absent
          contradiction
    · exact ⟨sound', kept', nofun⟩

theorem leads_status {F : List Event → Prop} (keeps : Keeps F)
    (sound : Sound p outcome first s) (unlooked : ¬ Looked p outcome s.past) (kept : F s.past) :
    (around p outcome).Leads (Answered p outcome first F) p.status s := by
  refine .bind (leads_resolve keeps Status.precedence sound unlooked kept) fun answer t h => ?_
  refine ⟨h.sound, h.kept, fun status same => ?_⟩
  cases answer with
  | error e => cases same
  | ok status' =>
    cases same
    exact h.resolved status rfl

theorem toldMemory_cons {e : Event} {past : List Event}
    (other : ∀ r answer, e = .told r answer → ∀ key container count,
      r ≠ .cluster (.tail key container count)) :
    ToldMemory p (e :: past) ↔ ToldMemory p past := by
  constructor
  · rintro ⟨lines, told, tells⟩
    refine ⟨lines, (List.mem_cons.1 told).resolve_left fun same => ?_, tells⟩
    exact other _ _ same.symm _ _ _ rfl
  · rintro ⟨lines, told, tells⟩
    exact ⟨lines, List.mem_cons_of_mem _ told, tells⟩

theorem ToldEnded.cons {past : List Event} (h : ToldEnded p past) (e : Event) :
    ToldEnded p (e :: past) := by
  obtain ⟨pod, told, terminal⟩ := h
  exact ⟨pod, List.mem_cons_of_mem _ told, terminal⟩

theorem ToldGone.cons {past : List Event} (h : ToldGone p outcome past) (e : Event) :
    ToldGone p outcome (e :: past) := by
  obtain ⟨later, earlier, rfl, written⟩ := h
  exact ⟨e :: later, earlier, rfl, written⟩

theorem Finds.cons {past : List Event} {code : Int} {e : Event} (h : Finds p outcome past code)
    (looks : Looked p outcome (e :: past) ↔ Looked p outcome past)
    (memory : ToldMemory p (e :: past) ↔ ToldMemory p past) :
    Finds p outcome (e :: past) code := by
  refine ⟨fun looked => h.looked (looks.1 looked), fun unlooked => ?_⟩
  rcases h.unlooked (mt looks.2 unlooked) with ⟨gone, vanished⟩ | ⟨ended, how⟩
  · exact .inl ⟨gone.cons e, vanished⟩
  · rw [← memory] at how
    exact .inr ⟨ended.cons e, how⟩

theorem lasts_finds (code : Int) :
    (around p outcome).Lasts fun s => Finds p outcome s.past code :=
  lasts_told (Finds p outcome · code) fun _ _ quiet h =>
    h.cons (looked_cons quiet) (toldMemory_cons fun r answer same => absurd same (quiet r answer))

structure Found (p : Detached) (outcome : Status) (first : Site)
    (result : Except Workload.Error Int) (s : Site) : Prop where
  sound : Sound p outcome first s
  finds : ∀ code, result = .ok code → Finds p outcome s.past code

theorem lasts_found (result : Except Workload.Error Int) :
    (around p outcome).Lasts (Found p outcome first result) :=
  fun _ _ h happens => ⟨h.sound.happens happens,
    fun code same => lasts_finds code (h.finds code same) happens⟩

theorem found_of_looked (sound : Sound p outcome first s) (looked : Looked p outcome s.past)
    {code : Int} (hasCode : codeOf? outcome = some code) : Found p outcome first (.ok code) s := by
  refine ⟨sound, ?_⟩
  rintro _ ⟨⟩
  exact ⟨fun _ => hasCode, fun unlooked => absurd looked unlooked⟩

theorem found_of_unlooked (sound : Sound p outcome first s) (unlooked : ¬ Looked p outcome s.past)
    {code : Int} (how : ToldGone p outcome s.past ∧ code = exitVanished ∨
      ToldEnded p s.past ∧ (ToldMemory p s.past ∧ code = exitOutOfMemory ∨
        ¬ ToldMemory p s.past ∧ code = exitSilent)) : Found p outcome first (.ok code) s := by
  refine ⟨sound, ?_⟩
  rintro _ ⟨⟩
  exact ⟨fun looked => absurd looked unlooked, fun _ => how⟩

/-- A status that was resolved has a code only by a look at the outcome's document. -/
theorem Resolved.looked {past : List Event} {status : Status} {code : Int}
    (h : Resolved p outcome past status) (hasCode : codeOf? status = some code) :
    codeOf? outcome = some code ∧ Looked p outcome past := by
  rcases h with ⟨rfl, looked⟩ | ⟨open', -⟩
  · exact ⟨hasCode, looked⟩
  · rw [← isSome_codeOf?, hasCode] at open'
    contradiction

theorem Resolved.unlooked {past : List Event} {status : Status}
    (h : Resolved p outcome past status) (terminal : outcome.isTerminal)
    (noCode : codeOf? status = none) : ¬ Looked p outcome past := by
  rcases h with ⟨rfl, -⟩ | ⟨-, unlooked⟩
  · rw [← isSome_codeOf?, noCode] at terminal
    contradiction
  · exact unlooked

theorem keeps_untold : Keeps fun past => ¬ ToldMemory p past := by
  intro e past only untold
  refine mt (toldMemory_cons ?_).1 untold
  rintro r answer same key container count rfl
  obtain ⟨_, same⟩ := only _ _ same
  cases same

structure Logged (p : Detached) (outcome : Status) (first : Site) (ranOut : Bool) (s : Site) :
    Prop where
  sound : Sound p outcome first s
  unlooked : ¬ Looked p outcome s.past
  ended : ToldEnded p s.past
  told : ToldMemory p s.past ↔ ranOut = true

theorem leads_log (sound : Sound p outcome first s) (unlooked : ¬ Looked p outcome s.past)
    (untold : ¬ ToldMemory p s.past) (ended : ToldEnded p s.past) :
    (around p outcome).Leads (Logged p outcome first) (ranOutOfMemory p.key p.oomLogLines) s := by
  have lasts : (around p outcome).Lasts fun s => ¬ ToldMemory p s.past ∧ ToldEnded p s.past :=
    lasts_told (fun past => ¬ ToldMemory p past ∧ ToldEnded p past) fun e past quiet h =>
      ⟨mt (toldMemory_cons fun r answer same => absurd same (quiet r answer)).1 h.1, h.2.cons e⟩
  refine .request (lasts_sound.and (lasts_unlooked.and lasts)) ⟨sound, unlooked, untold, ended⟩ ?_
  rintro t answer _ ⟨sound, unlooked, untold, ended⟩ ⟨-, rfl⟩
  have sound' := sound.after (.cluster (.tail p.key Launch.mainContainer p.oomLogLines)) answer rfl
  have told : ToldMemory p
      (t.after (.cluster (.tail p.key Launch.mainContainer p.oomLogLines)) answer).past ↔
      ∃ lines, answer = .ok lines ∧ tellsOutOfMemory lines := by
    constructor
    · rintro ⟨lines, told, tells⟩
      rcases List.mem_cons.1 told with same | earlier
      · cases same
        exact ⟨lines, rfl, tells⟩
      · exact absurd ⟨lines, earlier, tells⟩ untold
    · rintro ⟨lines, rfl, tells⟩
      exact ⟨lines, List.mem_cons_self, tells⟩
  cases answer with
  | error e => exact ⟨sound', unlooked, ended.cons _, told.trans (by simp)⟩
  | ok lines => exact ⟨sound', unlooked, ended.cons _, told.trans (by simp)⟩

/-- The second look, and the log, once the cluster told that the pod has ended. -/
theorem leads_ended (terminal : outcome.isTerminal) (sound : Sound p outcome first s)
    (unlooked : ¬ Looked p outcome s.past) (untold : ¬ ToldMemory p s.past)
    (ended : ToldEnded p s.past) :
    (around p outcome).Leads (Found p outcome first) (ExceptT.run do
      if let some code := codeOf? (← ExceptT.mk p.status) then return code
      if ← ranOutOfMemory p.key p.oomLogLines then return exitOutOfMemory
      return exitSilent) s := by
  have keeps : Keeps fun past => ¬ ToldMemory p past ∧ ToldEnded p past :=
    fun e past only h => ⟨keeps_untold e past only h.1, h.2.cons e⟩
  refine .bindRun (leads_status keeps sound unlooked ⟨untold, ended⟩)
    (fun e t h => ⟨h.sound, nofun⟩) fun status t h => ?_
  split
  · next code hasCode =>
    obtain ⟨hasCode, looked⟩ := (h.resolved status rfl).looked hasCode
    exact found_of_looked h.sound looked hasCode
  · next noCode =>
    have unlooked := (h.resolved status rfl).unlooked terminal
      (Option.eq_none_iff_forall_ne_some.2 noCode)
    refine .liftRun (leads_log h.sound unlooked h.kept.1 h.kept.2) fun ranOut u h => ?_
    cases ranOut with
    | false =>
      exact found_of_unlooked h.sound h.unlooked
        (.inr ⟨h.ended, .inr ⟨fun told => absurd (h.told.1 told) Bool.false_ne_true, rfl⟩⟩)
    | true => exact found_of_unlooked h.sound h.unlooked (.inr ⟨h.ended, .inl ⟨h.told.2 rfl, rfl⟩⟩)

structure Reported (p : Detached) (outcome : Status) (first : Site)
    (answer : Except Workload.Error (Option PodStatus)) (s : Site) : Prop where
  sound : Sound p outcome first s
  unlooked : ¬ Looked p outcome s.past
  untold : ¬ ToldMemory p s.past
  gone : answer = .ok none → ToldGone p outcome s.past
  present : ∀ pod, answer = .ok (some pod) →
    .told (.cluster (.read p.key)) (.ok (some pod)) ∈ s.past

theorem leads_report (sound : Sound p outcome first s) (unlooked : ¬ Looked p outcome s.past)
    (untold : ¬ ToldMemory p s.past) :
    (around p outcome).Leads (Reported p outcome first)
      (do return (← askCluster (.read p.key)).mapError Workload.Error.cluster) s := by
  have lasts : (around p outcome).Lasts fun s => ¬ ToldMemory p s.past :=
    keeps_untold.lasts
  refine .request (lasts_sound.and (lasts_unlooked.and lasts)) ⟨sound, unlooked, untold⟩ ?_
  rintro t answer _ ⟨sound, unlooked, untold⟩ ⟨tells, rfl⟩
  have sound' := sound.after (.cluster (.read p.key)) answer rfl
  have untold' : ¬ ToldMemory p (t.after (.cluster (.read p.key)) answer).past :=
    mt (toldMemory_cons (by rintro _ _ ⟨⟩ _ _ _ ⟨⟩)).1 untold
  rcases tells rfl with rfl | ⟨e, rfl⟩
  · refine ⟨sound', unlooked, untold', fun absent => ?_, fun pod present => ?_⟩
    · have gone : t.pod = none := Except.ok.inj absent
      refine ⟨[], t.past, ?_, sound.gone gone⟩
      rw [← gone]
      rfl
    · have here : t.pod = some pod := Except.ok.inj present
      rw [← here]
      exact List.mem_cons_self
  · exact ⟨sound', unlooked, untold', nofun, nofun⟩

theorem leads_resolveExit (terminal : outcome.isTerminal) (sound : Sound p outcome first s)
    (unlooked : ¬ Looked p outcome s.past) (untold : ¬ ToldMemory p s.past) :
    (around p outcome).Leads (Found p outcome first) p.resolveExit s := by
  unfold resolveExit
  refine .bindRun (leads_status keeps_untold sound unlooked untold)
    (fun e t h => ⟨h.sound, nofun⟩) fun status t h => ?_
  split
  · next code hasCode =>
    obtain ⟨hasCode, looked⟩ := (h.resolved status rfl).looked hasCode
    exact found_of_looked h.sound looked hasCode
  · next noCode =>
    have unlooked := (h.resolved status rfl).unlooked terminal
      (Option.eq_none_iff_forall_ne_some.2 noCode)
    refine .bindRun (leads_report h.sound unlooked h.kept) (fun e t h => ⟨h.sound, nofun⟩)
      fun pod t h => ?_
    cases pod with
    | none => exact found_of_unlooked h.sound h.unlooked (.inl ⟨h.gone rfl, rfl⟩)
    | some pod =>
      cases ended : pod.isTerminal with
      | false =>
        simp only [ended]
        exact ⟨h.sound, nofun⟩
      | true =>
        simp only [ended]
        exact leads_ended terminal h.sound h.unlooked h.untold ⟨pod, h.present pod rfl, ended⟩

/-! ### The code that is answered -/

/-- A code is put down: the one that was there or that another look put down, else the one that was
found. -/
structure Settled (p : Detached) (outcome : Status) (first : Site) (code : Int) (s : Site) :
    Prop where
  cell : s.cell.code = some code
  before : ∀ other, first.cell.code = some other ∨ .putDown other ∈ s.past → code = other
  found : first.cell.code = none → (∀ other, .putDown other ∉ s.past) → Finds p outcome s.past code

theorem Sound.settled {code : Int} (sound : Sound p outcome first s)
    (cell : s.cell.code = some code) : Settled p outcome first code s where
  cell := cell
  before other put := by
    rw [← sound.cell other, cell] at put
    exact Option.some.inj put
  found empty quiet := by
    rcases (sound.cell code).1 cell with there | put
    · rw [empty] at there
      contradiction
    · exact absurd put (quiet code)

theorem lasts_settled (code : Int) :
    (around p outcome).Lasts (Settled p outcome first code) := by
  intro s t h happens
  have finds {past : List Event} {e : Event} (quiet : ∀ r answer, e ≠ .told r answer) :
      Finds p outcome past code → Finds p outcome (e :: past) code := fun h =>
    h.cons (looked_cons quiet) (toldMemory_cons fun r answer same => absurd same (quiet r answer))
  cases happens with
  | write status contents own =>
    refine ⟨h.cell, by simpa using h.before, fun empty quiet => ?_⟩
    refine finds (fun _ _ same => by cases same) (h.found empty ?_)
    simpa using quiet
  | elsewhere | report => exact ⟨h.cell, h.before, h.found⟩
  | remove written =>
    refine ⟨h.cell, by simpa using h.before, fun empty quiet => ?_⟩
    refine finds (fun _ _ same => by cases same) (h.found empty ?_)
    simpa using quiet
  | putDown other empty =>
    rw [h.cell] at empty
    contradiction

theorem Settled.after {code : Int} (h : Settled p outcome first code s) (r : Request)
    (answer : r.Answer) (same : (s.after r answer).cell = s.cell)
    (quiet : ∀ key, r ≠ .document key) (noLog : ∀ key container count,
      r ≠ .cluster (.tail key container count)) :
    Settled p outcome first code (s.after r answer) := by
  refine ⟨same ▸ h.cell, by simpa [Site.after] using h.before, fun empty untouched => ?_⟩
  refine (h.found empty fun other put => untouched other (List.mem_cons_of_mem _ put)).cons ?_ ?_
  · cases r with
    | document key => exact absurd rfl (quiet key)
    | _ => exact .rfl
  · refine toldMemory_cons fun r' answer' same key container count tail => ?_
    cases same
    exact noLog key container count tail

/-- Putting a code down that was found. -/
theorem Found.complete {code : Int} (h : Found p outcome first (.ok code) s) (answer : Bool) :
    ∃ final, Settled p outcome first final (s.after (.complete code) answer) := by
  cases there : s.cell.code with
  | some other =>
    have same : (s.after (.complete code) answer).cell = s.cell := by
      simp [Site.after, ExitCell.filled, ExitCell.complete, there]
    refine ⟨other, (h.sound.after (.complete code) answer same).settled ?_⟩
    rw [same, there]
  | none =>
    refine ⟨code, ?_, fun other put => ?_, fun _ _ => ?_⟩
    · simp [Site.after, ExitCell.filled, ExitCell.complete, there]
    · have put : first.cell.code = some other ∨ .putDown other ∈ s.past := by
        simpa [Site.after] using put
      rw [← h.sound.cell other, there] at put
      contradiction
    · exact (h.finds code rfl).cons .rfl (toldMemory_cons (by rintro _ _ ⟨⟩ _ _ _ ⟨⟩))

theorem leads_exitValue (terminal : outcome.isTerminal) (fresh : first.Fresh p) :
    (around p outcome).Leads
      (fun result s => ∀ code, result = .ok code → Settled p outcome first code s)
      p.exitValue first := by
  have lasts : (around p outcome).Lasts fun s => ¬ ToldMemory p s.past := keeps_untold.lasts
  refine .request (lasts_sound.and (lasts_unlooked.and lasts))
    ⟨fresh.sound terminal, by simp [fresh.begun, Looked], by simp [fresh.begun, ToldMemory]⟩ ?_
  rintro s answer _ ⟨sound, unlooked, untold⟩ ⟨told, rfl⟩
  have sound' := sound.after .exitCode answer rfl
  cases answer with
  | some code =>
    rintro _ ⟨⟩
    exact sound'.settled told.symm
  | none =>
    have untold' : ¬ ToldMemory p (s.after .exitCode none).past :=
      mt (toldMemory_cons (by rintro _ _ ⟨⟩ _ _ _ ⟨⟩)).1 untold
    refine .bind (leads_resolveExit terminal sound' unlooked untold') fun result t found => ?_
    cases result with
    | error e => nofun
    | ok code =>
      refine .request (lasts_found (.ok code)) found ?_
      rintro t answer _ found ⟨-, rfl⟩
      obtain ⟨final, settled⟩ := found.complete answer
      refine .request (lasts_settled final) settled ?_
      rintro t answer _ settled ⟨told, rfl⟩
      rintro _ ⟨⟩
      have settled' := settled.after .exitCode answer rfl nofun nofun
      have same : answer = some final := told.trans settled.cell
      rw [same] at settled' ⊢
      exact settled'

/-- The code answered is the one that stands in the cell: one that was there, else what the look
found. That is the outcome's code if the document was asked for after it was written, and one of a
pod that vanished or ended without a word if it was not. -/
theorem code_of_exitValue (terminal : outcome.isTerminal) (fresh : first.Fresh p) {last : Site}
    {code : Int} (steps : (around p outcome).Steps ⟨p.exitValue, first⟩ ⟨.done (.ok code), last⟩) :
    Settled p outcome first code last := by
  have lasts (result : Except Workload.Error Int) : (around p outcome).Lasts fun s =>
      ∀ code, result = .ok code → Settled p outcome first code s :=
    fun s t settled happens code same => lasts_settled code (settled code same) happens
  exact (leads_exitValue terminal fresh).ended lasts steps code rfl

/-! ### Runs -/

def Site.reply (p : Detached) (s : Site) : (r : Request) → Option (r.Answer × Site)
  | .document key => some (.ok (s.shelf.read key), s.after (.document key) (.ok (s.shelf.read key)))
  | .cluster (.read key) =>
    if key = p.key then some (.ok s.pod, s.after (.cluster (.read key)) (.ok s.pod)) else none
  | .cluster (.tail key container count) =>
    some (.ok [], s.after (.cluster (.tail key container count)) (.ok []))
  | .exitCode => some (s.cell.code, s.after .exitCode s.cell.code)
  | .complete code =>
    some ((s.cell.complete code).1, s.after (.complete code) (s.cell.complete code).1)
  | _ => none

theorem answers_reply {r : Request} {answer : r.Answer}
    (h : s.reply p r = some (answer, t)) : (around p outcome).Answers s r answer t := by
  unfold Site.reply at h
  split at h
  · cases h
    exact ⟨.inl rfl, rfl⟩
  · split at h
    · cases h
      exact ⟨fun _ => .inl rfl, rfl⟩
    · contradiction
  · cases h
    exact ⟨trivial, rfl⟩
  · cases h
    exact ⟨rfl, rfl⟩
  · cases h
    exact ⟨rfl, rfl⟩
  · contradiction

def sample : Detached where
  key := ⟨"jobs", "source-read-1-0"⟩
  info := { name := "source-read-1-0", image := "source:1" }
  workloadId := "1-0"
  pollInterval := .ofSeconds 1
  oomLogLines := 10

def begun (phase : Phase) : Site where
  pod := some { phase := phase }

theorem fresh_begun (phase : Phase) : (begun phase).Fresh sample :=
  ⟨fun _ _ => rfl, rfl, rfl⟩

abbrev Looking := Surroundings.Scene Request Request.Answer Site (Except Workload.Error Int)

def Looking.serve (x : Looking) (answers : Nat) : Looking :=
  Surroundings.served (Site.reply sample) answers x

def Looking.finish (x : Looking) : Looking :=
  ⟨x.rest, (x.state.write sample .succeeded "").remove⟩

def looking (phase : Phase) : Looking := ⟨sample.exitValue, begun phase⟩

abbrev Passes : Looking → Looking → Prop := (around sample .succeeded).Steps

theorem passes_serve (x : Looking) (answers : Nat) : Passes x (x.serve answers) :=
  Surroundings.steps_served answers_reply answers x

theorem passes_finish (x : Looking) : Passes x x.finish :=
  .tail (.single (.happening x.rest (.write x.state .succeeded "" fun _ => rfl)))
    (.happening x.rest (.remove _ List.mem_cons_self))

/-- The document is written after the first look at it and before the second. -/
theorem code_of_secondLook :
    ∃ last, Passes (looking .succeeded) ⟨.done (.ok exitSuccess), last⟩ ∧
      Settled sample .succeeded (begun .succeeded) exitSuccess last := by
  obtain ⟨last, steps⟩ : ∃ last, Passes (looking .succeeded) ⟨.done (.ok exitSuccess), last⟩ :=
    ⟨_, ((passes_serve _ 6).trans (passes_finish _)).trans (passes_serve _ 9)⟩
  exact ⟨last, steps, code_of_exitValue rfl (fresh_begun .succeeded) steps⟩

/-- The document is written before the pod goes away, and yet the pod counts as vanished or as one
that ended without a word. -/
theorem succeeded_not_told : codeOf? .succeeded = some exitSuccess ∧
    (∃ last, (begun .running).Fresh sample ∧
      Passes (looking .running) ⟨.done (.ok exitVanished), last⟩ ∧
      .wrote .succeeded ∈ last.past ∧ last.pod = none) ∧
    ∃ last, (begun .succeeded).Fresh sample ∧
      Passes (looking .succeeded) ⟨.done (.ok exitSilent), last⟩ ∧
      .wrote .succeeded ∈ last.past ∧ last.pod = none := by
  refine ⟨rfl, ?vanished, ?silent⟩
  case vanished =>
    have steps : Passes (looking .running) ((((looking .running).serve 5).finish).serve 9) :=
      ((passes_serve _ 5).trans (passes_finish _)).trans (passes_serve _ 9)
    refine ⟨_, fresh_begun .running, steps, ?_, rfl⟩
    exact .tail _ (.tail _ (.tail _ (.tail _ (.head _))))
  case silent =>
    have steps : Passes (looking .succeeded) (((looking .succeeded).serve 14).finish) :=
      (passes_serve _ 14).trans (passes_finish _)
    exact ⟨_, fresh_begun .succeeded, steps, .tail _ (.head _), rfl⟩

end Workload.Pod.Detached

end ConnectorSync
