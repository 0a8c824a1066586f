import ConnectorSync.Proofs.Docker.Creation
import ConnectorSync.Proofs.Host.Files

/-!
# Creations that fail

What the creation of a container makes of the files of the host if it fails, requests that fail
half-way included.
-/

namespace ConnectorSync.Docker.Workspace

open Files Launch

inductive Mark
  | put
  | removed
  deriving DecidableEq

structure Site where
  tree : Tree
  marks : Place → Option Mark := fun _ => none

def Site.mark (s : Site) (tree : Tree) (m : Mark) (places : Place → Bool) : Site where
  tree := tree
  marks p := if places p then some m else s.marks p

theorem Site.marks_mark (s : Site) (tree : Tree) (m : Mark) (places : Place → Bool) (p : Place) :
    (s.mark tree m places).marks p = if places p then some m else s.marks p := rfl

def Site.after (s : Site) (tree : Tree) : Host.Effect → Site
  | .nothing => { s with tree := tree }
  | .put path _ => s.mark tree .put fun p => p = s.tree.placeOf path
  | .removed gone => s.mark tree .removed gone

inductive Answers (s : Site) : (r : Request) → r.Answer → Site → Prop
  | host {r : Host.Request} {answer : r.Answer} {effect : Host.Effect} {tree : Tree}
    (h : Host.Answers s.tree r answer effect tree) :
    Answers s (.host r) answer (s.after tree effect)
  | other (r : Request) (answer : r.Answer) (apart : ∀ q, r ≠ .host q) : Answers s r answer s

def around : Surroundings Request Request.Answer Site := .still Answers

/-- No input file is there that was not there before, and no file is lost. -/
structure LeftAsFound (dir : String) (files : List (String × String)) (before after : Tree) :
    Prop where
  noneNew : ∀ file ∈ files, after.isFile (before.placeOf (join dir file.1)) →
    before.isFile (before.placeOf (join dir file.1))
  noneLost : ∀ p, before.isFile p → after.isFile p

def Own (t : Tree) (dir : String) (files : List (String × String)) : Mark → Place → Prop
  | .put, p => ∃ file ∈ files, p = t.placeOf (join dir file.1)
  | .removed, p => t.placeOf dir <+: p

/-- The files are those of a tree, but for what the marks tell. -/
structure Touched (t : Tree) (dir : String) (files : List (String × String)) (s : Site) : Prop where
  unmarked (p : Place) : s.marks p = none → s.tree.isFile p = t.isFile p
  marked (p : Place) (m : Mark) : s.marks p = some m → s.tree.isFile p = decide (m = .put)
  own (p : Place) (m : Mark) : s.marks p = some m → Own t dir files m p
  workingDirectory : s.tree.workingDirectory = t.workingDirectory

variable {t : Tree} {dir : String} {files : List (String × String)} {s : Site} {tree : Tree}

namespace Touched

theorem start (t : Tree) : Touched t dir files { tree := t } where
  unmarked _ _ := rfl
  marked _ _ := nofun
  own _ _ := nofun
  workingDirectory := rfl

theorem sameFiles (h : Touched t dir files s) (same : s.tree.SameFiles tree) :
    Touched t dir files { s with tree := tree } where
  unmarked p none := (same.isFile p).trans (h.unmarked p none)
  marked p m here := (same.isFile p).trans (h.marked p m here)
  own := h.own
  workingDirectory := same.workingDirectory.trans h.workingDirectory

theorem mark {m : Mark} {places : Place → Bool} (h : Touched t dir files s)
    (own : ∀ p, places p → Own t dir files m p)
    (isFile : ∀ p, tree.isFile p = if places p then decide (m = .put) else s.tree.isFile p)
    (same : tree.workingDirectory = s.tree.workingDirectory) :
    Touched t dir files (s.mark tree m places) := by
  have last (p : Place) {m' : Mark} (here : (s.mark tree m places).marks p = some m') :
      places p = true ∧ m' = m ∨ places p = false ∧ s.marks p = some m' := by
    rw [Site.marks_mark] at here
    cases place : places p with
    | true =>
      rw [place] at here
      exact .inl ⟨rfl, (Option.some.inj here).symm⟩
    | false =>
      rw [place] at here
      exact .inr ⟨rfl, here⟩
  refine ⟨fun p none => ?_, fun p m' here => ?_, fun p m' here => ?_, ?_⟩
  · rw [Site.marks_mark] at none
    cases place : places p with
    | true => rw [place] at none; cases none
    | false =>
      rw [place] at none
      have unchanged := isFile p
      rw [place] at unchanged
      exact unchanged.trans (h.unmarked p none)
  · have changed := isFile p
    obtain ⟨place, rfl⟩ | ⟨place, before⟩ := last p here
    · rwa [place] at changed
    · rw [place] at changed
      exact changed.trans (h.marked p m' before)
  · obtain ⟨place, rfl⟩ | ⟨-, before⟩ := last p here
    · exact own p place
    · exact h.own p m' before
  · exact same.trans h.workingDirectory

/-- What a request does to files is marked, if it is done where a creation does it. -/
theorem after {effect : Host.Effect} (h : Touched t dir files s) (makes : effect.Makes s.tree tree)
    (put : ∀ path contents, effect = .put path contents →
      ∃ file ∈ files, path = join dir file.1)
    (removed : ∀ gone, effect = .removed gone → ∀ p, gone p → s.tree.placeOf dir <+: p) :
    Touched t dir files (s.after tree effect) := by
  have place := Tree.placeOf_eq h.workingDirectory
  cases effect with
  | nothing => exact h.sameFiles makes
  | put path contents =>
    obtain ⟨file, mem, rfl⟩ := put path contents rfl
    obtain ⟨inside, rfl⟩ := makes
    refine h.mark (fun p at_ => ?_) (fun p => ?_) rfl
    · exact ⟨file, mem, by rw [of_decide_eq_true at_, place]⟩
    · rw [Tree.isFile_put_file inside]
      by_cases at_ : p = s.tree.placeOf (join dir file.1) <;> simp [at_]
  | removed gone =>
    obtain rfl : tree = s.tree.without gone := makes
    refine h.mark (fun p at_ => ?_) (fun p => ?_) rfl
    · have within := removed gone rfl p at_
      rwa [place] at within
    · rw [Tree.isFile_without]
      cases gone p <;> simp

/-- Whatever was asked before, files are as they were found if none was put where there was none and
stays there, and none was removed. -/
theorem leftAsFound_iff (h : Touched t dir files s) : LeftAsFound dir files t s.tree ↔
    (∀ p, s.marks p = some .put → t.isFile p) ∧ ∀ p, s.marks p = some .removed → ¬ t.isFile p := by
  constructor
  · intro found
    refine ⟨fun p put => ?_, fun p removed file => ?_⟩
    · obtain ⟨file, mem, rfl⟩ := h.own p .put put
      exact found.noneNew file mem (by rw [h.marked _ _ put]; rfl)
    · have kept := found.noneLost p file
      rw [h.marked p _ removed] at kept
      cases kept
  · rintro ⟨put, removed⟩
    refine ⟨fun file mem here => ?_, fun p file => ?_⟩
    · generalize t.placeOf (join dir file.1) = p at here ⊢
      cases marks : s.marks p with
      | none => rwa [h.unmarked p marks] at here
      | some m =>
        rw [h.marked p m marks] at here
        rw [of_decide_eq_true here] at marks
        exact put p marks
    · cases marks : s.marks p with
      | none => rwa [h.unmarked p marks]
      | some m =>
        rw [h.marked p m marks]
        cases m with
        | put => rfl
        | removed => exact absurd file (removed p marks)

end Touched

/-! ### What a creation leaves -/

variable {d : Descriptor}

structure Filling (t : Tree) (dir : String) (files : List (String × String)) (s : Site) : Prop
    extends Touched t dir files s where
  unremoved (p : Place) : s.marks p ≠ some .removed

theorem Filling.start (t : Tree) : Filling t dir files { tree := t } := ⟨.start t, fun _ => nofun⟩

theorem Filling.after {effect : Host.Effect} (h : Filling t dir files s)
    (makes : effect.Makes s.tree tree)
    (filling : effect = .nothing ∨
      ∃ file ∈ files, ∃ part, effect = .put (join dir file.1) part) :
    Filling t dir files (s.after tree effect) := by
  obtain rfl | ⟨file, mem, part, rfl⟩ := filling
  · exact ⟨h.toTouched.sameFiles makes, h.unremoved⟩
  · refine ⟨h.toTouched.after makes ?_ nofun, fun p => ?_⟩
    · rintro path contents ⟨⟩
      exact ⟨file, mem, rfl⟩
    · unfold Site.after
      rw [Site.marks_mark]
      split
      · exact nofun
      · exact h.unremoved p

/-- What a creation leaves that fails: nothing was done if the image is missing, and files are
removed only if the client did not start. -/
structure Leaves (t : Tree) (dir : String) (files : List (String × String)) (e : Launch.Error)
    (s : Site) : Prop extends Touched t dir files s where
  untouched (image : String) : e = .imageNotFound image → ∀ p, s.marks p = none
  removed (p : Place) : s.marks p = some .removed → ∀ fault, e ≠ .io fault

theorem Filling.leaves {e : Launch.Error} (h : Filling t dir files s)
    (untouched : ∀ image, e = .imageNotFound image → ∀ p, s.marks p = none) :
    Leaves t dir files e s :=
  ⟨h.toTouched, untouched, fun p removed => absurd removed (h.unremoved p)⟩

theorem Filling.make {answer : Except Fault Unit} {u : Site} (h : Filling t dir files s)
    (answers : Answers s (.host (.createDirectories dir)) answer u) : Filling t dir files u := by
  cases answers with
  | host answers => exact h.after answers.makes (.inl answers.of_createDirectories)
  | other _ _ apart => exact absurd rfl (apart _)

theorem Filling.write {done rest : List (String × String)} {name text : String}
    {answer : Except Fault Unit} {u : Site} (split : files = done ++ (name, text) :: rest)
    (h : Filling t dir files s)
    (answers : Answers s (.host (.writeFile (join dir name) (Text.bytes text))) answer u) :
    Filling t dir files u := by
  have mem : (name, text) ∈ files := by simp [split]
  cases answers with
  | host answers =>
    refine h.after answers.makes ?_
    obtain ⟨-, put⟩ | ⟨fault, -, nothing | ⟨part, put⟩⟩ := answers.of_writeFile
    · exact .inr ⟨_, mem, _, put⟩
    · exact .inl nothing
    · exact .inr ⟨_, mem, part, put⟩
  | other _ _ apart => exact absurd rfl (apart _)

theorem eq_of_run {c : Host.Command} {answer : Except Fault Host.Ended} {u : Site}
    (answers : Answers s (.host (.run c)) answer u) : u = s := by
  cases answers with
  | host answers =>
    obtain ⟨rfl, rfl⟩ := answers.of_run
    rfl
  | other _ _ apart => exact absurd rfl (apart _)

theorem eq_of_spawn {c : Host.Command} {answer : Except Fault Host.Child} {u : Site}
    (answers : Answers s (.host (.spawn c)) answer u) : u = s := by
  cases answers with
  | host answers =>
    obtain ⟨rfl, rfl⟩ := answers.of_spawn
    rfl
  | other _ _ apart => exact absurd rfl (apart _)

theorem Touched.clean {answer : Except Fault Unit} {u : Site} (h : Touched t dir files s)
    (answers : Answers s (.host (.removeDirectory dir)) answer u) : Touched t dir files u := by
  cases answers with
  | host answers =>
    obtain ⟨gone, rfl, below⟩ := answers.of_removeDirectory
    refine h.after answers.makes nofun ?_
    rintro _ ⟨⟩
    exact below
  | other _ _ apart => exact absurd rfl (apart _)

def leaving (t : Tree) (dir : String) (files : List (String × String)) :
    Creation Answers dir files where
  always _ := True
  ready s := s = { tree := t }
  upTo _ s := Filling t dir files s
  failed e s := Leaves t dir files e s
  always_of_ready _ := trivial
  always_of_upTo _ := trivial
  always_of_failed _ := trivial
  look h answers := (eq_of_run answers).trans h
  refuse h notIo := by
    subst h
    exact ⟨.start t, fun _ _ _ => rfl, fun _ _ => notIo⟩
  make h answers := by
    subst h
    exact (Filling.start t).make answers
  unmade h answers := by
    subst h
    exact ((Filling.start t).make answers).leaves nofun
  write split h answers := h.write split answers
  unwritten split h answers := (h.write split answers).leaves nofun
  start h answers := by
    rwa [eq_of_spawn answers]
  clean h answers := ⟨h.toTouched.clean answers, nofun, fun _ _ => nofun⟩

theorem leads_create (config : Launch.Config) (d : Descriptor) (name : String) (t : Tree) :
    around.Leads (fun result s => ∀ e, result = .error e →
        Leaves t (jobRoot config.workspaceRoot d) d.files.entries e s)
      (Container.create config d name) { tree := t } := by
  let creation := leaving t (jobRoot config.workspaceRoot d) d.files.entries
  refine (creation.create rfl name).leads.mono fun result s left => ?_
  rintro e rfl
  exact left

/-- A creation that fails leaves the files as they were found just if it put no file where there was
none, unless it removed it again, and removed no file that was there. It does neither if the image
is missing, puts nothing but the input files, and removes only what lies in the directory, once the
client does not start. -/
theorem create_failed {config : Launch.Config} {name : String} {e : Launch.Error}
    (run : around.Steps ⟨Container.create config d name, { tree := t }⟩ ⟨.done (.error e), s⟩) :
    (LeftAsFound (jobRoot config.workspaceRoot d) d.files.entries t s.tree ↔
      (∀ p, s.marks p = some .put → t.isFile p) ∧
        ∀ p, s.marks p = some .removed → ¬ t.isFile p) ∧
    (∀ image, e = .imageNotFound image → ∀ p, s.marks p = none) ∧
    (∀ p, s.marks p = some .put →
      ∃ file ∈ d.files.entries, p = t.placeOf (join (jobRoot config.workspaceRoot d) file.1)) ∧
    ∀ p, s.marks p = some .removed →
      t.placeOf (jobRoot config.workspaceRoot d) <+: p ∧ ∀ fault, e ≠ .io fault := by
  have left := (leads_create config d name t).ended (fun _ => Surroundings.lasts_still _) run e rfl
  refine ⟨left.leftAsFound_iff, left.untouched, fun p put => left.own p .put put, ?_⟩
  intro p removed
  exact ⟨left.own p .removed removed, left.removed p removed⟩

/-! ### Two creations -/

def reply (s : Site) : (r : Request) → Option (r.Answer × Site)
  | .host r => (Host.carryOut false s.tree r).map fun (answer, effect, tree) =>
    (answer, s.after tree effect)
  | _ => none

theorem answers_reply {s u : Site} {r : Request} {answer : r.Answer}
    (replied : reply s r = some (answer, u)) : Answers s r answer u := by
  cases r with
  | host r =>
    obtain ⟨⟨answer, effect, tree⟩, served, same⟩ := Option.map_eq_some_iff.1 replied
    cases same
    exact .host (Host.answers_carryOut served)
  | _ => cases replied

abbrev Moment := Surroundings.Scene Request Request.Answer Site (Except Launch.Error Container)

def ending (d : Descriptor) (t : Tree) : Moment :=
  Surroundings.served reply 10 ⟨Container.create { workspaceRoot := "/w" } d "c", { tree := t }⟩

def failure? (m : Moment) : Option Launch.Error :=
  match m.result? with
  | some (.error e) => some e
  | _ => none

theorem result_of_failure {m : Moment} {e : Launch.Error} (failed : failure? m = some e) :
    m.result? = some (.error e) := by
  unfold failure? at failed
  split at failed
  · next result =>
    cases failed
    exact result
  · cases failed

theorem steps_ending {e : Launch.Error} (failed : failure? (ending d t) = some e) :
    around.Steps ⟨Container.create { workspaceRoot := "/w" } d "c", { tree := t }⟩
      ⟨.done (.error e), (ending d t).state⟩ :=
  .ended (Surroundings.steps_served answers_reply 10 _) (result_of_failure failed)

def plainOrder : Order where
  image := "source:1"
  step := .read
  jobId := "7"
  attempt := 1
  config := some "secret"

/-- An order with a file in a directory that is not made. -/
def nestedOrder : Order :=
  { plainOrder with files := StringMap.empty.insert "sub/notes.txt" "" }

/-- Another process of the attempt has left a file in its directory. -/
def usedTree : Tree := ({} : Tree).seed ["w", "7", "1", "out.log"] []

/-- A client that does not start costs a file that the creation did not put. -/
theorem create_failed_of_spawn : ∃ (e : Launch.Error) (s : Site),
    around.Steps
      ⟨Container.create { workspaceRoot := "/w" } plainOrder.descriptor "c", { tree := usedTree }⟩
      ⟨.done (.error e), s⟩ ∧
    s.marks ["w", "7", "1", "out.log"] = some .removed ∧
    usedTree.placeOf (jobRoot "/w" plainOrder.descriptor) <+: ["w", "7", "1", "out.log"] ∧
    ¬ LeftAsFound (jobRoot "/w" plainOrder.descriptor) plainOrder.descriptor.files.entries usedTree
      s.tree := by
  have failed : failure? (ending plainOrder.descriptor usedTree) =
      some (.startFailed Fault.notFound.message) := by decide +kernel
  have marked : (ending plainOrder.descriptor usedTree).state.marks ["w", "7", "1", "out.log"] =
      some .removed := by decide +kernel
  have there : usedTree.isFile ["w", "7", "1", "out.log"] := by decide +kernel
  obtain ⟨asFound, -, -, removed⟩ := create_failed (steps_ending failed)
  refine ⟨_, _, steps_ending failed, marked, (removed _ marked).1, fun found => ?_⟩
  exact (asFound.1 found).2 _ marked there

/-- A file that cannot be written leaves the configuration that was written before. -/
theorem config_left_behind :
    ¬ ∀ (config : Launch.Config) (d : Descriptor) (name : String) (t : Tree) (e : Launch.Error)
      (s : Site),
      around.Steps ⟨Container.create config d name, { tree := t }⟩ ⟨.done (.error e), s⟩ →
      LeftAsFound (jobRoot config.workspaceRoot d) d.files.entries t s.tree := by
  intro kept
  have failed : failure? (ending nestedOrder.descriptor {}) = some (.io .notFound) := by
    decide +kernel
  have place : ({} : Tree).placeOf (join (jobRoot "/w" nestedOrder.descriptor) configFile) =
      ["w", "7", "1", configFile] := by decide +kernel
  have written : (ending nestedOrder.descriptor {}).state.tree.isFile ["w", "7", "1", configFile] =
      true := by decide +kernel
  have mem : (configFile, "secret") ∈ nestedOrder.descriptor.files.entries := by decide
  have noneNew := (kept _ _ _ _ _ _ (steps_ending failed)).noneNew _ mem
  rw [place] at noneNew
  exact absurd (noneNew written) (by decide)

end ConnectorSync.Docker.Workspace
