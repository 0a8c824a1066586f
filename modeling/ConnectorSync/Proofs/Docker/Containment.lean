import ConnectorSync.Docker.Container
import ConnectorSync.Proofs.Files.Lexical
import ConnectorSync.Proofs.Surroundings

/-!
# Directories of attempts

Where the directory of an attempt and its input files lie by the texts of their paths. The directory
is removed with all that is in it.
-/

namespace ConnectorSync.Docker

open Files Launch

variable {dir path root : String} {contents : Bytes} {d : Descriptor}

/-! ### What is written and removed -/

theorem canAsk_ifGood {r : Host.Request} {next : Except Fault Unit → Host.Talk (Except Fault Unit)}
    (stops : ∀ fault, next (.error fault) = pure (.error fault)) :
    (∃ reply, (next reply).CanAsk r) ↔ (next (.ok ())).CanAsk r := by
  constructor
  · rintro ⟨fault | _, asked⟩
    · rw [stops] at asked
      exact absurd asked Dialogue.not_canAsk_pure
    · exact asked
  · intro asked
    exact ⟨.ok (), asked⟩

theorem canAsk_writeFiles {files : List (String × String)} :
    (writeFiles dir files).CanAsk (.writeFile path contents) ↔
      ∃ file ∈ files, path = join dir file.1 ∧ contents = Text.bytes file.2 := by
  induction files with
  | nil => exact iff_of_false nofun nofun
  | cons file rest ih =>
    rw [writeFiles, Dialogue.canAsk_request_bind, Host.Request.writeFile.injEq]
    simp only [List.mem_cons, exists_eq_or_imp]
    refine or_congr Iff.rfl ((canAsk_ifGood ?_).trans ih)
    exact fun _ => rfl

theorem canAsk_materialize :
    (materialize dir d).CanAsk (.writeFile path contents) ↔
      ∃ file ∈ d.files.entries, path = join dir file.1 ∧ contents = Text.bytes file.2 := by
  rw [materialize, Dialogue.canAsk_request_bind, or_iff_right nofun]
  refine (canAsk_ifGood ?_).trans canAsk_writeFiles
  exact fun _ => rfl

theorem canAsk_removeJobRoot :
    (onHost (removeJobRoot dir)).CanAsk (.host (.removeDirectory path)) ↔ path = dir := by
  rw [removeJobRoot, onHost_ask_bind, Dialogue.canAsk_request_bind]
  constructor
  · rintro (same | ⟨_, asked⟩)
    · cases same
      rfl
    · exact absurd asked Dialogue.not_canAsk_pure
  · rintro rfl
    exact .inl rfl

theorem canAsk_destroy {c : Container} :
    c.destroy.CanAsk (.host (.removeDirectory path)) ↔ path = c.jobRoot := by
  rw [← canAsk_removeJobRoot, Container.destroy, Dialogue.canAsk_request_bind, or_iff_right nofun]
  constructor
  · rintro ⟨first, asked⟩
    cases first with
    | false => exact absurd asked Dialogue.not_canAsk_pure
    | true =>
      obtain kill | ⟨_, asked⟩ := Dialogue.canAsk_request_bind.1 asked
      · cases kill
      obtain kill | ⟨_, asked⟩ := Dialogue.canAsk_request_bind.1 asked
      · cases kill
      exact asked
  · intro asked
    refine ⟨true, Dialogue.canAsk_request_bind.2 (.inr ⟨.error .notFound, ?_⟩)⟩
    exact Dialogue.canAsk_request_bind.2 (.inr ⟨(), asked⟩)

/-! ### Where they lie -/

/-- The directory that a destruction removes lies below the workspace root, and the input files that
are written lie below that directory. -/
structure Contained (root : String) (d : Descriptor) : Prop where
  removed : ∀ (c : Container) (path : String), c.jobRoot = jobRoot root d →
    c.destroy.CanAsk (.host (.removeDirectory path)) → Below root path
  written : ∀ (path : String) (contents : Bytes),
    (materialize (jobRoot root d) d).CanAsk (.writeFile path contents) →
      Below (jobRoot root d) path

theorem contained_iff_below : Contained root d ↔ Below root (jobRoot root d) ∧
    ∀ file ∈ d.files.entries, Below (jobRoot root d) (join (jobRoot root d) file.1) := by
  constructor
  · rintro ⟨removed, written⟩
    constructor
    · exact removed ⟨⟨none, "", "", none⟩, "", jobRoot root d, 0⟩ _ rfl (canAsk_destroy.2 rfl)
    · intro file mem
      exact written _ _ (canAsk_materialize.2 ⟨file, mem, rfl, rfl⟩)
  · rintro ⟨removed, written⟩
    constructor
    · intro c path same asked
      rw [canAsk_destroy.1 asked, same]
      exact removed
    · intro path contents asked
      obtain ⟨file, mem, rfl, -⟩ := canAsk_materialize.1 asked
      exact written file mem

theorem lexical_jobRoot (inner : Inner d.jobId) (root : String) : lexical (jobRoot root d) =
    lexical root ++ (lexical d.jobId ++ [.normal (Text.decimal d.attempt)]) := by
  unfold jobRoot
  rw [(isName_decimal _).lexical_join, inner.lexical_join, List.append_assoc]

theorem inner_of_below (below : Below "" (jobRoot "" d)) : Inner d.jobId := by
  obtain ⟨rest, -, names, same⟩ := below
  unfold jobRoot at same
  rw [(isName_decimal _).lexical_join, lexical_join] at same
  change lexical d.jobId ++ [.normal (Text.decimal d.attempt)] = rest at same
  rw [← same] at names
  exact (ofNames_append.1 names).1

/-- Wherever the workspace is, a descriptor's directory stays in it and its files in the directory,
just if the job's name does not lead out, nor that of any file. -/
theorem contained_iff (d : Descriptor) : (∀ root, Contained root d) ↔ Inner d.jobId ∧
    ∀ file ∈ d.files.entries, Below (jobRoot "" d) (join (jobRoot "" d) file.1) := by
  constructor
  · intro contained
    obtain ⟨directory, files⟩ := contained_iff_below.1 (contained "")
    exact ⟨inner_of_below directory, files⟩
  · rintro ⟨inner, files⟩ root
    have names : OfNames (lexical d.jobId ++ [.normal (Text.decimal d.attempt)]) :=
      ofNames_append.2 ⟨inner, fun c mem => ⟨_, List.mem_singleton.1 mem⟩⟩
    refine contained_iff_below.2 ⟨⟨_, by simp, names, lexical_jobRoot inner root⟩, ?_⟩
    intro file mem
    have here : lexical (jobRoot "" d) = lexical d.jobId ++ [.normal (Text.decimal d.attempt)] :=
      lexical_jobRoot inner ""
    refine (files file mem).moved (s := lexical root) (here ▸ names) ?_
    rw [here]
    exact lexical_jobRoot inner root

/-- An order with a file in the directory of another job. -/
def strayFile : Order where
  image := "source:1"
  step := .read
  jobId := "7"
  attempt := 1
  files := StringMap.empty.insert "../../8/1/connector_config.json" "{}"

/-- An order of a job that is named after what lies outside the workspace. -/
def strayJob : Order where
  image := "source:1"
  step := .spec
  jobId := "../etc"
  attempt := 1

theorem not_contained_of_stray :
    ¬ Contained "/workspace" strayFile.descriptor ∧ ¬ Contained "/workspace" strayJob.descriptor := by
  simp only [contained_iff_below]
  constructor
  · rintro ⟨-, files⟩
    have mem : ("../../8/1/connector_config.json", "{}") ∈ strayFile.descriptor.files.entries := by
      decide
    obtain ⟨rest, -, -, same⟩ := files _ mem
    have outside : lexical (join (jobRoot "/workspace" strayFile.descriptor)
        "../../8/1/connector_config.json") =
      [.root, .normal "workspace", .normal "8", .normal "1", .normal configFile] := by
      unfold jobRoot
      simp only [lexical_join]
      decide
    have directory : lexical (jobRoot "/workspace" strayFile.descriptor) =
      [.root, .normal "workspace", .normal "7", .normal "1"] := by
      unfold jobRoot
      simp only [lexical_join]
      decide
    rw [outside, directory] at same
    simp at same
  · rintro ⟨⟨rest, -, -, same⟩, -⟩
    have outside : lexical (jobRoot "/workspace" strayJob.descriptor) =
      [.root, .normal "etc", .normal "1"] := by
      unfold jobRoot
      simp only [lexical_join]
      decide
    have workspace : lexical "/workspace" = [.root, .normal "workspace"] := by decide
    rw [outside, workspace] at same
    simp at same

end ConnectorSync.Docker
