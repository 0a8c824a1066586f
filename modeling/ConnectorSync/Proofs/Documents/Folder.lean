import ConnectorSync.Documents.Store
import ConnectorSync.Proofs.Files.Lexical
import Mathlib.Logic.Function.Basic

/-!
# Folders of documents

Whatever key is asked for, a folder reads one path that goes on from its root by names, or nothing
at all. A key that is made of names is found below the root under just these names.
-/

namespace ConnectorSync.Files

open Component

/-! ### Components of a joined path -/

def leading (piece : List Char) : List Component :=
  if piece = [] then [root] else if piece = ['.'] then [current] else (ofPiece piece).toList

variable {first : List Char} {rest : List (List Char)}

theorem splitSlashes_of_ne_nil {cs : List Char} (nonempty : cs ≠ [])
    (split : splitSlashes cs = first :: rest) : first ≠ [] ∨ rest ≠ [] := by
  cases cs with
  | nil => exact absurd rfl nonempty
  | cons c cs =>
    obtain ⟨piece, pieces, splitRest⟩ := List.exists_cons_of_ne_nil (splitSlashes_ne_nil cs)
    rw [splitSlashes, splitRest] at split
    split at split
    · obtain ⟨-, rfl⟩ := List.cons.inj split
      exact .inr (List.cons_ne_nil _ _)
    · obtain ⟨rfl, -⟩ := List.cons.inj split
      exact .inl (List.cons_ne_nil _ _)

theorem components_eq {path : String} (split : splitSlashes path.toList = first :: rest)
    (some : first ≠ [] ∨ rest ≠ []) :
    components path = leading first ++ rest.filterMap ofPiece := by
  unfold components leading
  rw [split]
  dsimp only
  by_cases none : first = []
  · have more : rest ≠ [] := some.resolve_left (not_not_intro none)
    rw [if_pos none, if_pos none, if_neg (by simpa using more)]
    rfl
  · rw [if_neg none, if_neg none]
    split <;> rfl

theorem components_of_nonempty {path : String} (nonempty : path ≠ "") : ∃ first rest,
    splitSlashes path.toList = first :: rest ∧
      components path = leading first ++ rest.filterMap ofPiece := by
  obtain ⟨first, rest, split⟩ := List.exists_cons_of_ne_nil (splitSlashes_ne_nil path.toList)
  have chars : path.toList ≠ [] := fun none => nonempty (String.toList_eq_nil_iff.1 none)
  exact ⟨first, rest, split, components_eq split (splitSlashes_of_ne_nil chars split)⟩

/-- A path whose components are names begins with none of the marks that count only there. -/
theorem components_of_names {path : String} (nonempty : path ≠ "")
    (names : OfNames (components path)) :
    ¬ path.startsWith "/" ∧ components path = stepsOf path := by
  obtain ⟨first, rest, split, same⟩ := components_of_nonempty nonempty
  rw [same] at names ⊢
  have ahead : OfNames (leading first) := (ofNames_append.1 names).1
  have notEmpty : first ≠ [] := by
    rintro rfl
    exact not_ofNames_root ahead
  have notDot : first ≠ ['.'] := by
    rintro rfl
    exact nomatch ahead current (.head _)
  constructor
  · intro absolute
    obtain ⟨cs, chars⟩ := startsWith_slash_iff.1 absolute
    rw [chars, splitSlashes, if_pos rfl] at split
    exact notEmpty (List.cons.inj split).1.symm
  · unfold leading stepsOf
    rw [if_neg notEmpty, if_neg notDot, split, List.filterMap_cons]
    cases ofPiece first <;> rfl

/-- After a slash the pieces of a path come after those before it. -/
theorem components_slash {before after : String}
    (split : splitSlashes before.toList = first :: rest) :
    components (before ++ "/" ++ after) =
      leading first ++ rest.filterMap ofPiece ++ stepsOf after := by
  have pieces : splitSlashes (before ++ "/" ++ after).toList =
      first :: (rest ++ splitSlashes after.toList) := by
    rw [String.toList_append, String.toList_append, List.append_assoc,
      show "/".toList = ['/'] from rfl, List.singleton_append, splitSlashes_slash, split,
      List.cons_append]
  rw [components_eq pieces (.inr (by simp [splitSlashes_ne_nil])), List.filterMap_append,
    ← List.append_assoc]
  rfl

/-- A path of names goes on from where it is joined to. -/
theorem components_join {base relative : String} (nonempty : relative ≠ "")
    (names : OfNames (components relative)) :
    components (join base relative) = components base ++ components relative := by
  obtain ⟨within, steps⟩ := components_of_names nonempty names
  unfold join
  rw [if_neg within]
  by_cases empty : base = ""
  · subst empty
    rfl
  by_cases slash : base.endsWith "/"
  · rw [if_pos (by simp [slash])]
    obtain ⟨before, rfl⟩ := exists_of_endsWith slash
    obtain ⟨first, rest, split⟩ := List.exists_cons_of_ne_nil (splitSlashes_ne_nil before.toList)
    have alone : components (before ++ "/") = leading first ++ rest.filterMap ofPiece ++ [] := by
      rw [← String.append_empty (s := before ++ "/"), components_slash split]
      rfl
    rw [components_slash split, alone, List.append_nil, steps]
  · rw [if_neg (by simp [empty, slash])]
    obtain ⟨first, rest, split, same⟩ := components_of_nonempty empty
    rw [components_slash split, same, steps]

/-! ### Paths made of names -/

/-- The parts of a path between its slashes. -/
def parts (path : String) : List String := (splitSlashes path.toList).map String.ofList

theorem parts_cases (path : String) :
    ('/' ∉ path.toList ∧ parts path = [path]) ∨
      ∃ first rest, '/' ∉ first.toList ∧ path = first ++ "/" ++ rest ∧
        parts path = first :: parts rest := by
  by_cases slash : '/' ∈ path.toList
  · right
    obtain ⟨before, after, chars, noSlash⟩ := List.eq_append_cons_of_mem slash
    refine ⟨String.ofList before, String.ofList after, ?_, ?_, ?_⟩
    · rw [String.toList_ofList]
      exact noSlash
    · rw [← String.toList_inj, chars]
      simp
    · unfold parts
      rw [chars, splitSlashes_slash, splitSlashes_of_noSlash noSlash, String.toList_ofList]
      rfl
  · left
    refine ⟨slash, ?_⟩
    unfold parts
    rw [splitSlashes_of_noSlash slash]
    simp

theorem join_slash {base first rest : String} (isName : IsName first)
    (relative : ¬ rest.startsWith "/") :
    join base (first ++ "/" ++ rest) = join (join base first) rest := by
  have ends : EndsInPiece (join base first) := endsInPiece_join isName.noSlash isName.nonempty
  rw [ends.join_relative relative]
  have within : ¬ (first ++ "/" ++ rest).startsWith "/" := by
    rw [startsWith_slash_iff]
    rintro ⟨after, chars⟩
    obtain ⟨c, cs, piece⟩ := List.exists_cons_of_ne_nil
      (fun none => isName.nonempty (String.toList_eq_nil_iff.1 none))
    rw [String.toList_append, String.toList_append, piece] at chars
    have slash : c = '/' := (List.cons.inj chars).1
    exact isName.noSlash (by rw [piece, slash]; exact .head _)
  unfold join
  rw [if_neg within, if_neg isName.relative]
  split <;> simp only [String.append_assoc]

/-- Whatever it is joined to, a path of names leads where its parts lead one after the other. -/
theorem foldl_join_parts (base : String) {path : String}
    (names : ∀ part ∈ parts path, part ≠ "" ∧ part ≠ "." ∧ part ≠ "..") :
    (parts path).foldl join base = join base path := by
  induction same : parts path generalizing base path with
  | nil => exact absurd same (by simp [parts, splitSlashes_ne_nil])
  | cons first others ih =>
    rcases parts_cases path with ⟨-, alone⟩ | ⟨before, rest, noSlash, rfl, more⟩
    · rw [alone] at same
      obtain ⟨rfl, rfl⟩ := List.cons.inj same
      rfl
    · rw [more] at same names
      obtain ⟨rfl, rfl⟩ := List.cons.inj same
      obtain ⟨nonempty, notDot, notDots⟩ := names before (.head _)
      have further : ∀ part ∈ parts rest, part ≠ "" ∧ part ≠ "." ∧ part ≠ ".." :=
        fun part mem => names part (.tail _ mem)
      -- A slash at the start would leave an empty part.
      have relative : ¬ rest.startsWith "/" := by
        intro absolute
        obtain ⟨cs, chars⟩ := startsWith_slash_iff.1 absolute
        have empty : "" ∈ parts rest := by
          unfold parts
          rw [chars, splitSlashes, if_pos rfl]
          exact .head _
        exact (further "" empty).1 rfl
      rw [join_slash ⟨noSlash, nonempty, notDot, notDots⟩ relative, List.foldl_cons]
      exact ih (join base before) further rfl

theorem components_of_parts {path : String}
    (names : ∀ part ∈ parts path, part ≠ "" ∧ part ≠ "." ∧ part ≠ "..") :
    components path = (parts path).map normal := by
  have named (piece : List Char) (mem : piece ∈ splitSlashes path.toList) :
      piece ≠ [] ∧ piece ≠ ['.'] ∧ ofPiece piece = some (normal (String.ofList piece)) := by
    obtain ⟨nonempty, notDot, notDots⟩ := names _ (List.mem_map_of_mem mem)
    have nonempty : piece ≠ [] := fun same => nonempty (same ▸ rfl)
    have notDot : piece ≠ ['.'] := fun same => notDot (same ▸ rfl)
    have notDots : piece ≠ ['.', '.'] := fun same => notDots (same ▸ rfl)
    exact ⟨nonempty, notDot, by simp [ofPiece, nonempty, notDot, notDots]⟩
  obtain ⟨first, rest, split⟩ := List.exists_cons_of_ne_nil (splitSlashes_ne_nil path.toList)
  unfold parts
  rw [split] at named ⊢
  obtain ⟨nonempty, notDot, ahead⟩ := named first (.head _)
  have further : rest.filterMap ofPiece = rest.map fun piece => normal (String.ofList piece) := by
    have each : ∀ piece ∈ rest, ofPiece piece = some (normal (String.ofList piece)) :=
      fun piece mem => (named piece (.tail _ mem)).2.2
    clear split named
    induction rest with
    | nil => rfl
    | cons piece rest ih =>
      obtain ⟨here, each⟩ := List.forall_mem_cons.1 each
      rw [List.filterMap_cons, here, List.map_cons, ih each]
  rw [components_eq split (.inl nonempty), further]
  unfold leading
  rw [if_neg nonempty, if_neg notDot, ahead, List.map_cons, List.map_cons, List.map_map]
  rfl

end ConnectorSync.Files

namespace ConnectorSync.Documents.Folder

open Files

variable {f : Folder} {key path : String}

/-- A path goes on from a root by at least one name, and by nothing else. -/
def GoesOn (root path : String) : Prop :=
  ∃ rest, rest ≠ [] ∧ OfNames rest ∧ components path = components root ++ rest

/-- An answer about files for which only the text at one path counts. -/
def ReadsOnly {α : Type} (answer : Tree → α) (path : String) : Prop :=
  ∃ told : Except Fault String → α, ∀ files, answer files = told (files.readText path)

theorem all_isOrdinary_iff {components : List Component} :
    components.all isOrdinary = true ↔ OfNames components := by
  rw [List.all_eq_true]
  refine forall₂_congr fun c _ => ?_
  cases c <;> simp [isOrdinary]

theorem path_of_names (f : Folder) (nonempty : key ≠ "") (names : OfNames (components key)) :
    f.path key = .ok (join f.root key) := by
  unfold Folder.path
  refine if_pos ?_
  simp [nonempty, all_isOrdinary_iff.2 names]

theorem path_refused (f : Folder) (strays : ¬ (key ≠ "" ∧ OfNames (components key))) :
    f.path key = .error (.invalidKey key) := by
  unfold Folder.path
  refine if_neg fun accepted => strays ?_
  rw [Bool.and_eq_true, decide_eq_true_eq, all_isOrdinary_iff] at accepted
  exact accepted

theorem goesOn_join {root : String} (nonempty : key ≠ "") (names : OfNames (components key)) :
    GoesOn root (join root key) := by
  refine ⟨components key, ?_, names, components_join nonempty names⟩
  obtain ⟨first, rest, -, same⟩ := components_of_nonempty nonempty
  rw [same]
  intro none
  have none : leading first = [] := (List.append_eq_nil_iff.1 none).1
  unfold leading Component.ofPiece at none
  split at none
  · cases none
  next nonempty =>
  split at none
  · cases none
  next notDot =>
  rw [if_neg (by simp [nonempty, notDot])] at none
  split at none <;> cases none

theorem readsOnly_readPath (path : String) : ReadsOnly (readPath · path) path := by
  have factors : Function.FactorsThrough (readPath · path) (Tree.readText · path) := by
    intro files files' same
    have same : files.readText path = files'.readText path := same
    show readPath files path = readPath files' path
    rw [readPath, readPath, same]
  have : Nonempty (Except Error (Option String)) := ⟨.ok none⟩
  obtain ⟨told, same⟩ := (Function.factorsThrough_iff _).1 factors
  exact ⟨told, congrFun same⟩

theorem ReadsOnly.bind {α β : Type} {answer : Tree → Except Error α} (h : ReadsOnly answer path)
    (g : α → Except Error β) : ReadsOnly (fun files => answer files >>= g) path := by
  obtain ⟨told, same⟩ := h
  exact ⟨fun text => told text >>= g, fun files => congrArg (· >>= g) (same files)⟩

/-- Whatever is read by a key is read at one path that goes on from the root by names, if the key is
not refused. A key made of names is not refused, and what it names is found under these names. -/
theorem reads_below_root (f : Folder) :
    (∀ key, (∀ files, f.read files key = .error (.invalidKey key)) ∨
      ∃ path, GoesOn f.root path ∧ ReadsOnly (f.read · key) path) ∧
    (∀ id, (∀ files, f.output files id = .error (.invalidKey (outputKey id))) ∨
      ∃ path, GoesOn f.root path ∧ ReadsOnly (f.output · id) path) ∧
    ∀ key, (∀ part ∈ parts key, part ≠ "" ∧ part ≠ "." ∧ part ≠ "..") →
      (∀ files, f.read files key = readPath files ((parts key).foldl join f.root)) ∧
      components ((parts key).foldl join f.root) =
        components f.root ++ (parts key).map .normal := by
  refine ⟨fun key => ?_, fun id => ?_, fun key made => ?_⟩
  · by_cases safe : key ≠ "" ∧ OfNames (components key)
    · right
      refine ⟨_, goesOn_join safe.1 safe.2, ?_⟩
      unfold Folder.read
      rw [path_of_names f safe.1 safe.2]
      exact readsOnly_readPath _
    · left
      intro files
      rw [Folder.read, path_refused f safe]
      rfl
  · by_cases safe : outputKey id ≠ "" ∧ OfNames (components (outputKey id))
    · right
      refine ⟨_, goesOn_join safe.1 safe.2, ?_⟩
      unfold Folder.output
      rw [path_of_names f safe.1 safe.2]
      exact (readsOnly_readPath _).bind _
    · left
      intro files
      rw [Folder.output, path_refused f safe]
      rfl
  · have same := components_of_parts made
    have nonempty : key ≠ "" := by
      rintro rfl
      exact (made "" (.head _)).1 rfl
    have names : OfNames (components key) := by
      rw [same]
      intro c mem
      obtain ⟨part, -, rfl⟩ := List.mem_map.1 mem
      exact ⟨part, rfl⟩
    rw [foldl_join_parts f.root made, components_join nonempty names, same]
    refine ⟨fun files => ?_, rfl⟩
    rw [Folder.read, path_of_names f nonempty names]
    rfl

theorem reads_below_root_status :
    (∀ part ∈ parts (statusKey "jobs" "source-read-7-1-abcde" .succeeded),
      part ≠ "" ∧ part ≠ "." ∧ part ≠ "..") ∧
    components ((parts (statusKey "jobs" "source-read-7-1-abcde" .succeeded)).foldl join
      "/var/docs") = [.root, .normal "var", .normal "docs", .normal "jobs",
        .normal "source-read-7-1-abcde", .normal "SUCCEEDED"] := by
  have made : ∀ part ∈ parts (statusKey "jobs" "source-read-7-1-abcde" .succeeded),
      part ≠ "" ∧ part ≠ "." ∧ part ≠ ".." := by
    decide
  obtain ⟨-, found⟩ := (reads_below_root ⟨"/var/docs"⟩).2.2 _ made
  refine ⟨made, found.trans ?_⟩
  decide

end ConnectorSync.Documents.Folder
