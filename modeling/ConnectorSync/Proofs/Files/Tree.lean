import ConnectorSync.Files.Tree
import ConnectorSync.Text.Numeral

/-!
# Paths and what operations make of a tree

Paths by their pieces and names, and the change that each operation on a tree makes if it does not
fail: one entry is put, or what is at some places goes.
-/

namespace ConnectorSync.Files

/-! ### Paths -/

structure IsName (name : String) : Prop where
  noSlash : '/' ∉ name.toList
  nonempty : name ≠ ""
  notDot : name ≠ "."
  notDots : name ≠ ".."

theorem isName_decimal (n : Nat) : IsName (Text.decimal n) := by
  have digits : ∀ c ∈ (Text.decimal n).toList, c.isDigit := by
    intro c mem
    rw [Text.decimal, String.toList_ofList] at mem
    exact Nat.isDigit_of_mem_toDigits (by decide) (by decide) mem
  refine ⟨fun slash => ?_, fun empty => ?_, fun dot => ?_, fun dots => ?_⟩
  · exact absurd (digits _ slash) (by decide)
  · have none := congrArg String.toList empty
    rw [Text.decimal, String.toList_ofList] at none
    exact Nat.toDigits_ne_nil none
  · exact absurd (digits '.' (by rw [dot]; decide)) (by decide)
  · exact absurd (digits '.' (by rw [dots]; decide)) (by decide)

/-- A path whose last piece is a name. -/
def EndsInPiece (path : String) : Prop :=
  ∃ front last, splitSlashes path.toList = front ++ [last] ∧ last ≠ []

theorem splitSlashes_ne_nil (cs : List Char) : splitSlashes cs ≠ [] := by
  cases cs with
  | nil => simp [splitSlashes]
  | cons c cs =>
    unfold splitSlashes
    split
    · simp
    · cases splitSlashes cs <;> simp

theorem splitSlashes_slash (before after : List Char) :
    splitSlashes (before ++ '/' :: after) = splitSlashes before ++ splitSlashes after := by
  induction before with
  | nil => simp [splitSlashes]
  | cons c cs ih =>
    rw [List.cons_append, splitSlashes, splitSlashes, ih]
    by_cases isSlash : c = '/'
    · simp [isSlash]
    · obtain ⟨piece, pieces, split⟩ := List.exists_cons_of_ne_nil (splitSlashes_ne_nil cs)
      simp [isSlash, split]

theorem splitSlashes_of_noSlash {cs : List Char} (noSlash : '/' ∉ cs) : splitSlashes cs = [cs] := by
  induction cs with
  | nil => rfl
  | cons c cs ih =>
    rw [List.mem_cons, not_or] at noSlash
    rw [splitSlashes, ih noSlash.2, if_neg (Ne.symm noSlash.1)]

theorem splitSlashes_append (before : List Char) {after : List Char} (noSlash : '/' ∉ after) :
    ∃ front last, splitSlashes (before ++ after) = front ++ [last ++ after] := by
  induction before with
  | nil => exact ⟨[], [], by rw [List.nil_append, splitSlashes_of_noSlash noSlash]; rfl⟩
  | cons c cs ih =>
    obtain ⟨front, last, split⟩ := ih
    rw [List.cons_append, splitSlashes, split]
    by_cases isSlash : c = '/'
    · exact ⟨[] :: front, last, by simp [isSlash]⟩
    · cases front with
      | nil => exact ⟨[], c :: last, by simp [isSlash]⟩
      | cons piece front => exact ⟨(c :: piece) :: front, last, by simp [isSlash]⟩

theorem endsInPiece_append (before : String) {after : String} (noSlash : '/' ∉ after.toList)
    (nonempty : after ≠ "") : EndsInPiece (before ++ after) := by
  obtain ⟨front, last, split⟩ := splitSlashes_append before.toList noSlash
  refine ⟨front, last ++ after.toList, by rw [String.toList_append, split], fun none => ?_⟩
  exact nonempty (String.toList_eq_nil_iff.1 (List.append_eq_nil_iff.1 none).2)

theorem endsInPiece_join {base name : String} (noSlash : '/' ∉ name.toList)
    (nonempty : name ≠ "") : EndsInPiece (join base name) := by
  unfold join
  split
  · simpa using endsInPiece_append "" noSlash nonempty
  · split <;> exact endsInPiece_append _ noSlash nonempty

theorem EndsInPiece.ne_empty {path : String} (ends : EndsInPiece path) : path ≠ "" := by
  rintro rfl
  obtain ⟨front, last, split, nonempty⟩ := ends
  have single : [[]] = front ++ [last] := split
  have same := congrArg List.getLast? single
  rw [List.getLast?_concat, List.getLast?_singleton, Option.some.injEq] at same
  exact nonempty same.symm

/-- Below a path that ends in a name, a relative path is put after a slash. -/
theorem EndsInPiece.join_relative {dir path : String} (ends : EndsInPiece dir)
    (relative : ¬ path.startsWith "/") : join dir path = dir ++ "/" ++ path := by
  have notEmpty := ends.ne_empty
  obtain ⟨front, last, split, nonempty⟩ := ends
  have noSlash : ¬ dir.endsWith "/" := by
    rw [String.endsWith_eq_endsWith_toSlice, String.Slice.endsWith_string_iff,
      String.copy_toSlice]
    rintro ⟨before, eq⟩
    rw [← eq, show "/".toList = '/' :: [] from rfl, splitSlashes_slash] at split
    exact nonempty (List.append_inj_right' split rfl |> List.singleton_inj.1).symm
  simp [join, relative, noSlash, notEmpty]

theorem IsName.relative {name : String} (isName : IsName name) : ¬ name.startsWith "/" := by
  rw [String.startsWith_string_iff]
  rintro ⟨rest, eq⟩
  exact isName.noSlash (by rw [← eq]; simp)

theorem EndsInPiece.join_eq {dir name : String} (ends : EndsInPiece dir) (isName : IsName name) :
    join dir name = dir ++ "/" ++ name := ends.join_relative isName.relative

namespace Tree

/-! ### Entries -/

variable {t t' : Tree} {path : String} {contents : Bytes}

theorem found_put_same {p : Place} (inside : p ≠ []) (e : Entry) :
    entry? (t.put p e) p = some e := by
  unfold entry? put
  simp [inside]

theorem found_put_other {p q : Place} (other : q ≠ p) (e : Entry) :
    entry? (t.put p e) q = t.entry? q := by
  unfold entry? put
  split
  · rfl
  · rw [List.find?_cons_of_neg (by simpa using Ne.symm other), List.find?_filter]
    congr 2
    funext e
    by_cases same : e.1 = q <;> simp [same, other]

/-- The tree without what is at some places. -/
def without (t : Tree) (gone : Place → Bool) : Tree :=
  { t with entries := t.entries.filter fun e => ! gone e.1 }

theorem found_without {gone : Place → Bool} {p : Place} (inside : p ≠ []) (left : gone p = true) :
    entry? (t.without gone) p = none := by
  unfold entry? without
  rw [if_neg inside, List.find?_filter, Option.map_eq_none_iff, List.find?_eq_none]
  intro e _
  by_cases same : e.1 = p <;> simp [same, left]

theorem found_without_other {gone : Place → Bool} {p : Place} (kept : gone p = false) :
    entry? (t.without gone) p = t.entry? p := by
  unfold entry? without
  rw [List.find?_filter]
  congr 3
  funext e
  by_cases same : e.1 = p <;> simp [same, kept]

theorem remove_eq_without (p : Place) : t.remove p = t.without p.isPrefixOf := rfl

/-! ### Places -/

theorem directory_of_follow {p q : Place} {name : String} (at_ : t.follow p name = .ok q) :
    t.entry? p = some .directory := by
  unfold follow at at_
  split at at_
  · cases at_
  · cases at_
  · assumption

/-- What stands between the slashes of a path. -/
def piecesOf (path : String) : List String := (splitSlashes path.toList).map String.ofList

def namesOf (path : String) : List String := ((piecesOf path).reverse.dropWhile (· = "")).reverse

def startOf (t : Tree) (path : String) : Place :=
  if path.startsWith "/" then [] else t.workingDirectory

/-- A text that can be a path. -/
structure IsPath (path : String) : Prop where
  noNul : path.toList.any (· = '\x00') = false
  short : path.utf8ByteSize ≤ longestPath
  nonempty : path ≠ ""

theorem isPath_of_approach {e : Ending} (ok : t.approach path = .ok e) : IsPath path := by
  unfold approach at ok
  by_cases nul : path.toList.any (· = '\x00') = true
  · rw [if_pos nul] at ok
    cases ok
  rw [if_neg nul] at ok
  by_cases long : longestPath < path.utf8ByteSize
  · rw [if_pos long] at ok
    cases ok
  rw [if_neg long] at ok
  by_cases empty : path = ""
  · rw [if_pos empty] at ok
    cases ok
  exact ⟨Bool.not_eq_true _ ▸ nul, Nat.le_of_not_lt long, empty⟩

theorem approach_of_isPath (isPath : IsPath path) :
    t.approach path = do
      let above ← (namesOf path).dropLast.foldlM t.follow (t.startOf path)
      return {
        above
        name := (namesOf path).getLast?.getD ""
        slash := (namesOf path).length < (piecesOf path).length } := by
  unfold approach
  rw [if_neg (by rw [isPath.noNul]; decide), if_neg (Nat.not_lt.2 isPath.short),
    if_neg isPath.nonempty]
  rfl

theorem approach_eq_ok_iff {e : Ending} :
    t.approach path = .ok e ↔ IsPath path ∧
      (namesOf path).dropLast.foldlM t.follow (t.startOf path) = .ok e.above ∧
      e.name = (namesOf path).getLast?.getD "" ∧
      e.slash = decide ((namesOf path).length < (piecesOf path).length) := by
  constructor
  · intro ok
    have isPath := isPath_of_approach ok
    rw [approach_of_isPath isPath] at ok
    cases above : (namesOf path).dropLast.foldlM t.follow (t.startOf path) with
    | error fault => rw [above] at ok; cases ok
    | ok p =>
      rw [above] at ok
      cases ok
      exact ⟨isPath, rfl, rfl, rfl⟩
  · rintro ⟨isPath, above, name, slash⟩
    rw [approach_of_isPath isPath, above]
    cases e
    cases name
    cases slash
    rfl

theorem resolve_eq_ok_iff {p : Place} {asDirectory : Bool} :
    t.resolve path = .ok (p, asDirectory) ↔ ∃ e, t.approach path = .ok e ∧
      t.follow e.above e.name = .ok p ∧
      asDirectory = (e.slash || e.name = "." || e.name = "..") := by
  unfold resolve
  constructor
  · intro ok
    cases ending : t.approach path with
    | error fault => rw [ending] at ok; cases ok
    | ok e =>
      rw [ending] at ok
      cases place : t.follow e.above e.name with
      | error fault => simp only [bind, Except.bind, place] at ok; cases ok
      | ok q =>
        simp only [bind, Except.bind, place] at ok
        cases ok
        exact ⟨e, rfl, place, rfl⟩
  · rintro ⟨e, ending, place, rfl⟩
    simp only [bind, Except.bind, ending, place]
    rfl

/-! ### Files of a directory -/

variable {dir name : String}

theorem piecesOf_join (ends : EndsInPiece dir) (isName : IsName name) :
    piecesOf (join dir name) = piecesOf dir ++ [name] := by
  unfold piecesOf
  rw [ends.join_eq isName, String.toList_append, String.toList_append, List.append_assoc,
    show "/".toList = ['/'] from rfl, List.singleton_append, splitSlashes_slash,
    splitSlashes_of_noSlash isName.noSlash, List.map_append, List.map_singleton,
    String.ofList_toList]

theorem startOf_join (ends : EndsInPiece dir) (isName : IsName name) :
    t.startOf (join dir name) = t.startOf dir := by
  have same : (join dir name).startsWith "/" = dir.startsWith "/" := by
    rw [Bool.eq_iff_iff, String.startsWith_string_iff, String.startsWith_string_iff,
      ends.join_eq isName]
    obtain ⟨c, cs, chars⟩ := List.exists_cons_of_ne_nil
      (fun none => ends.ne_empty (String.toList_eq_nil_iff.1 none))
    simp [chars]
  unfold startOf
  rw [same]

/-! ### Operations -/

theorem writeFile_eq_ok (ok : t.writeFile path contents = .ok t') :
    ∃ p asDirectory, t.resolve path = .ok (p, asDirectory) ∧ t.entry? p ≠ some .directory ∧
      t' = t.put p (.file contents) := by
  unfold writeFile at ok
  cases ending : t.approach path with
  | error fault => rw [ending] at ok; cases ok
  | ok e =>
    simp only [ending, bind, Except.bind] at ok
    split at ok
    · cases ok
    cases place : t.follow e.above e.name with
    | error fault => simp only [place] at ok; cases ok
    | ok p =>
      simp only [place] at ok
      split at ok
      · cases ok
      · next free =>
        exact ⟨p, _, resolve_eq_ok_iff.2 ⟨e, ending, place, rfl⟩, fun here => free here,
          (Except.ok.inj ok).symm⟩

theorem createDirectory_eq_ok (ok : t.createDirectory path = .ok t') :
    ∃ p, t.entry? p = none ∧ t' = t.put p .directory := by
  unfold createDirectory at ok
  cases resolved : t.resolve path with
  | error fault => rw [resolved] at ok; cases ok
  | ok place =>
    obtain ⟨p, asDirectory⟩ := place
    simp only [resolved, bind, Except.bind] at ok
    split at ok
    · cases ok
    · next free => exact ⟨p, free, (Except.ok.inj ok).symm⟩

theorem removeDirectory_eq_ok (ok : t.removeDirectory path = .ok t') :
    ∃ p b, t.resolve path = .ok (p, b) ∧ t' = t.remove p := by
  unfold removeDirectory at ok
  cases resolved : t.resolve path with
  | error fault => rw [resolved] at ok; cases ok
  | ok place =>
    obtain ⟨p, asDirectory⟩ := place
    simp only [resolved, bind, Except.bind] at ok
    split at ok
    · cases ok
    · cases ok
    · exact ⟨p, _, rfl, (Except.ok.inj ok).symm⟩

theorem removeFile_eq_ok (ok : t.removeFile path = .ok t') :
    ∃ p b, t.resolve path = .ok (p, b) ∧ t' = t.remove p := by
  unfold removeFile at ok
  cases resolved : t.resolve path with
  | error fault => rw [resolved] at ok; cases ok
  | ok place =>
    obtain ⟨p, asDirectory⟩ := place
    simp only [resolved, bind, Except.bind] at ok
    split at ok
    · cases ok
    · cases ok
    · split at ok
      · cases ok
      · exact ⟨p, _, rfl, (Except.ok.inj ok).symm⟩

end Tree

end ConnectorSync.Files
