import ConnectorSync.Proofs.Docker.Attempt
import ConnectorSync.Proofs.Text.Bytes

/-!
# Input files of an attempt

The connectors of an attempt have their input files in one directory, and the names of the files are
the same for both. Requests to the host write these files, in whole or in part, or remove them; all
other events do nothing to them.
-/

namespace ConnectorSync.Docker

open Launch Sync Files Execution

/-! ### The input files -/

variable {c : Connection} {context : AttemptContext}

theorem isName_of_input {name : String} (input : name ∈ [catalogFile, configFile, stateFile]) :
    IsName name := by
  simp only [List.mem_cons, List.not_mem_nil, or_false] at input
  rcases input with rfl | rfl | rfl <;>
    exact ⟨by decide, by decide, by decide, by decide⟩

theorem isName_catalogFile : IsName catalogFile := isName_of_input (by simp)

theorem isName_configFile : IsName configFile := isName_of_input (by simp)

theorem entries_config_catalog (config catalog : String) :
    ((StringMap.empty.insert configFile config).insert catalogFile catalog).entries =
      [(catalogFile, catalog), (configFile, config)] := by
  have differ : catalogFile ≠ configFile := by decide
  have less : catalogFile < configFile := by decide
  simp only [StringMap.insert, StringMap.empty, StringMap.insertEntry, if_neg differ, if_pos less]

theorem sourceFiles :
    (descriptor c .source .read context).files.entries =
      [(catalogFile, c.catalog.render), (configFile, c.source.config.render)] ++
        (c.state.map fun state => (stateFile, state.render)).toList := by
  cases hasState : c.state with
  | none =>
    have files : (descriptor c .source .read context).files =
        (StringMap.empty.insert configFile c.source.config.render).insert catalogFile
          c.catalog.render := by
      unfold descriptor
      rw [hasState]
      rfl
    rw [files, entries_config_catalog]
    rfl
  | some state =>
    have files : (descriptor c .source .read context).files =
        ((StringMap.empty.insert configFile c.source.config.render).insert catalogFile
          c.catalog.render).insert stateFile state.render := by
      unfold descriptor
      rw [hasState]
      rfl
    have afterCatalog : ¬ stateFile = catalogFile ∧ ¬ stateFile < catalogFile := by decide
    have afterConfig : ¬ stateFile = configFile ∧ ¬ stateFile < configFile := by decide
    rw [files]
    show StringMap.insertEntry stateFile state.render (StringMap.entries _) = _
    rw [entries_config_catalog]
    simp only [StringMap.insertEntry, if_neg afterCatalog.1, if_neg afterCatalog.2,
      if_neg afterConfig.1, if_neg afterConfig.2]
    rfl

theorem destinationFiles :
    (descriptor c .destination .write context).files.entries =
      [(catalogFile, c.catalog.render), (configFile, c.destination.config.render)] :=
  entries_config_catalog c.destination.config.render c.catalog.render

theorem mem_sourceFiles {name text : String}
    (mem : (name, text) ∈ (descriptor c .source .read context).files.entries) :
    name = catalogFile ∧ text = c.catalog.render ∨
      name = configFile ∧ text = c.source.config.render ∨ name = stateFile := by
  rw [sourceFiles] at mem
  simp only [List.mem_append, List.mem_cons, List.not_mem_nil, or_false, Prod.mk.injEq,
    Option.mem_toList, Option.map_eq_some_iff] at mem
  rcases mem with (⟨rfl, rfl⟩ | ⟨rfl, rfl⟩) | ⟨state, -, rfl, -⟩
  · exact .inl ⟨rfl, rfl⟩
  · exact .inr (.inl ⟨rfl, rfl⟩)
  · exact .inr (.inr rfl)

theorem isName_sourceFile {file : String × String}
    (mem : file ∈ (descriptor c .source .read context).files.entries) : IsName file.1 := by
  obtain ⟨name, text⟩ := file
  refine isName_of_input ?_
  rcases mem_sourceFiles mem with ⟨rfl, -⟩ | ⟨rfl, -⟩ | rfl <;> simp

/-- The directory of an attempt's input files, whichever connector they are for. -/
def directory (config : Launch.Config) (c : Connection) (context : AttemptContext) : String :=
  jobRoot config.workspaceRoot (descriptor c .source .read context)

theorem endsInPiece_directory (config : Launch.Config) (c : Connection) (context : AttemptContext) :
    EndsInPiece (directory config c context) :=
  endsInPiece_join (isName_decimal _).noSlash (isName_decimal _).nonempty

theorem join_inj {dir name other : String} (ends : EndsInPiece dir) (isName : IsName name)
    (isOther : IsName other) (same : join dir name = join dir other) : name = other := by
  rw [ends.join_eq isName, ends.join_eq isOther] at same
  have chars := congrArg String.toList same
  simp only [String.toList_append, List.append_cancel_left_eq] at chars
  exact String.toList_inj.1 chars

/-! ### What becomes of the source's files -/

/-- A file of a directory is there with the contents of a text. -/
def Holds (t : Files.Tree) (dir : String) (file : String × String) : Prop :=
  t.entry? (t.placeOf (join dir file.1)) = some (.file (Text.bytes file.2))

/-- A descriptor's files are in a directory, with the contents it gives them. -/
def InPlace (t : Files.Tree) (dir : String) (d : Descriptor) : Prop :=
  ∀ file ∈ d.files.entries, Holds t dir file

/-- An event has neither taken the file away nor left a part of it that is not the whole. -/
def Event.Spares (e : Event) (t : Files.Tree) (dir : String) (file : String × String) : Prop :=
  ¬ e.Took (t.placeOf (join dir file.1)) ∧
    ∀ part, e.LeftPart (join dir file.1) part → part = Text.bytes file.2

def Unharmed (s : Course) (dir : String) (d : Descriptor) : Prop :=
  ∀ file ∈ d.files.entries, ∀ e ∈ s.past, e.Spares s.tree dir file

section

variable {t t' : Files.Tree} {dir name : String} {file : String × String} {part : Bytes}
  {e : Event}

theorem holds_inj {text text' : String} (holds : Holds t dir (name, text))
    (holds' : Holds t dir (name, text')) : text = text' := by
  have same := holds.symm.trans holds'
  simp only [Option.some.injEq, Entry.file.injEq] at same
  exact Text.bytes_inj.1 same

theorem holds_of_sameFiles (same : t.SameFiles t') : Holds t' dir file ↔ Holds t dir file := by
  unfold Holds
  rw [Tree.placeOf_eq same.workingDirectory]
  exact same.file _ _

theorem holds_put (makes : (Host.Effect.put (join dir name) part).Makes t t') (text : String) :
    Holds t' dir (name, text) ↔ part = Text.bytes text := by
  have place := makes.placeOf_eq (join dir name)
  obtain ⟨inside, rfl⟩ := makes
  unfold Holds
  rw [place, Tree.found_put_same inside]
  simp

theorem holds_put_other (ends : EndsInPiece dir) (isName : IsName name) (isOther : IsName file.1)
    (differ : file.1 ≠ name) (makes : (Host.Effect.put (join dir name) part).Makes t t') :
    Holds t' dir file ↔ Holds t dir file := by
  have place := makes.placeOf_eq (join dir file.1)
  obtain ⟨-, rfl⟩ := makes
  have apart : t.placeOf (join dir file.1) ≠ t.placeOf (join dir name) :=
    fun same => differ (Tree.placeOf_join_inj ends isOther isName same)
  unfold Holds
  rw [place, Tree.found_put_other apart]

theorem holds_without (ends : EndsInPiece dir) (isName : IsName file.1) (gone : Place → Bool) :
    Holds (t.without gone) dir file ↔ Holds t dir file ∧ ¬ gone (t.placeOf (join dir file.1)) := by
  have inside : t.placeOf (join dir file.1) ≠ [] := by
    rw [Tree.placeOf_join ends isName]
    simp
  unfold Holds
  rw [show (t.without gone).placeOf (join dir file.1) = t.placeOf (join dir file.1) from rfl]
  cases left : gone (t.placeOf (join dir file.1)) with
  | true => simp [Tree.found_without inside left]
  | false => simp [Tree.found_without_other left]

theorem spares_congr (same : t'.workingDirectory = t.workingDirectory) :
    e.Spares t' dir file ↔ e.Spares t dir file := by
  unfold Event.Spares
  rw [Tree.placeOf_eq same]

theorem unharmed_after_iff {s : Course} {d : Descriptor}
    (same : t'.workingDirectory = s.tree.workingDirectory) :
    Unharmed (s.after t' e) dir d ↔
      Unharmed s dir d ∧ ∀ file ∈ d.files.entries, e.Spares t' dir file := by
  unfold Unharmed Course.after
  simp only [List.mem_append, List.mem_singleton, spares_congr same]
  constructor
  · intro unharmed
    exact ⟨fun file mem e past => unharmed file mem e (.inl past),
      fun file mem => unharmed file mem e (.inr rfl)⟩
  · rintro ⟨before, now⟩ file mem _ (past | rfl)
    · exact before file mem _ past
    · exact now file mem

end

/-! ### Events on the way -/

/-- Whether an event neither writes a whole file nor launches the source. -/
def Event.isAside : Event → Bool
  | ⟨.keeper (.host (.writeFile ..)), .ok (), _⟩ => false
  | ⟨.launched 0 _, _, _⟩ => false
  | _ => true

inductive Course.Idles (s : Course) : Course → Prop
  | idle {t : Files.Tree} {e : Event} (aside : e.isAside) (nothing : e.effect = .nothing)
    (same : s.tree.SameFiles t) : Idles s (s.after t e)

section

variable {t : Files.Tree} {dir path name : String} {file : String × String} {part : Bytes}
  {e : Event} {s u : Course}

theorem wrote_ne_of_isAside {text : String} (aside : e.isAside) : .wrote dir name text ≠ e := by
  rintro rfl
  cases aside

theorem launched_ne_of_isAside {source : Container} (aside : e.isAside) :
    .launched 0 source ≠ e := by
  rintro rfl
  cases aside

theorem idles_of_run {cmd : Host.Command} {reply : Except Fault Host.Ended}
    (answers : Answers s (.keeper (.host (.run cmd))) reply u) : s.Idles u := by
  obtain ⟨effect, tree, host, rfl⟩ := exists_of_host answers
  obtain ⟨rfl, rfl⟩ := host.of_run
  exact .idle rfl rfl (.refl _)

theorem idles_of_spawn {cmd : Host.Command} {reply : Except Fault Host.Child}
    (answers : Answers s (.keeper (.host (.spawn cmd))) reply u) : s.Idles u := by
  obtain ⟨effect, tree, host, rfl⟩ := exists_of_host answers
  obtain ⟨rfl, rfl⟩ := host.of_spawn
  exact .idle rfl rfl (.refl _)

theorem idles_of_createDirectories {reply : Except Fault Unit}
    (answers : Answers s (.keeper (.host (.createDirectories path))) reply u) : s.Idles u := by
  obtain ⟨effect, tree, host, rfl⟩ := exists_of_host answers
  obtain rfl := host.of_createDirectories
  exact .idle rfl rfl host.makes

theorem spares_of_nothing (nothing : e.effect = .nothing) : e.Spares t dir file := by
  constructor
  · rintro ⟨gone, removed, -⟩
    exact nomatch nothing.symm.trans removed
  · rintro part ⟨contents, fault, rfl⟩
    cases nothing

theorem spares_wrote (text : String) : (Event.wrote path name text).Spares t dir file := by
  constructor
  · rintro ⟨gone, removed, -⟩
    cases removed
  · rintro part ⟨contents, fault, same⟩
    have aside : false = true := congrArg Event.isAside same
    cases aside

theorem spares_leftPart_iff {contents : Bytes} {fault : Fault} :
    (Event.ofHost (.writeFile path contents) (.error fault) (.put path part)).Spares t dir file ↔
      (join dir file.1 = path → part = Text.bytes file.2) := by
  constructor
  · rintro ⟨-, whole⟩ rfl
    exact whole part ⟨contents, fault, rfl⟩
  · intro whole
    constructor
    · rintro ⟨gone, removed, -⟩
      cases removed
    · rintro part' ⟨contents', fault', same⟩
      have left := congrArg Event.effect same
      simp only [Host.Effect.put.injEq] at left
      rw [← left.2]
      exact whole left.1.symm

theorem spares_removed_iff {reply : Except Fault Unit} {gone : Place → Bool} :
    (Event.ofHost (.removeDirectory path) reply (.removed gone)).Spares t dir file ↔
      ¬ gone (t.placeOf (join dir file.1)) := by
  constructor
  · rintro ⟨notTook, -⟩ took
    exact notTook ⟨gone, rfl, took⟩
  · intro left
    constructor
    · rintro ⟨gone', removed, took⟩
      cases removed
      exact left took
    · rintro part ⟨contents, fault, same⟩
      have asked := congrArg Event.ask same
      cases asked

end

end ConnectorSync.Docker
