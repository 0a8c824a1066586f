import ConnectorSync.Proofs.Files.Tree

/-!
# Files by place

Which places of a tree hold files, and what becomes of them. A path that can be followed leads to
one place, which its names tell.
-/

namespace ConnectorSync.Files.Tree

def isFile (t : Tree) (p : Place) : Bool :=
  match t.entry? p with
  | some (.file _) => true
  | _ => false

def goOn (p : Place) (name : String) : Place :=
  if name = "" ∨ name = "." then p else if name = ".." then p.dropLast else p ++ [name]

/-- The place that a path leads to, if it can be followed. -/
def placeOf (t : Tree) (path : String) : Place := (piecesOf path).foldl goOn (t.startOf path)

variable {t t' : Tree} {path : String} {contents : Bytes} {p q : Place} {name : String}
  {names : List String}

/-! ### Places of paths -/

theorem eq_goOn_of_follow (ok : t.follow p name = .ok q) : q = goOn p name := by
  have here := directory_of_follow ok
  unfold follow at ok
  unfold goOn
  simp only [here] at ok
  split at ok
  · next still => rw [if_pos still, Except.ok.inj ok]
  · next moving =>
    rw [if_neg moving]
    split at ok
    · next up => rw [if_pos up, Except.ok.inj ok]
    · next down =>
      rw [if_neg down]
      split at ok
      · cases ok
      · exact (Except.ok.inj ok).symm

theorem eq_foldl_of_foldlM (ok : names.foldlM t.follow p = .ok q) : q = names.foldl goOn p := by
  induction names generalizing p with
  | nil =>
    cases ok
    rfl
  | cons name names ih =>
    rw [List.foldlM_cons] at ok
    cases first : t.follow p name with
    | error fault => rw [first] at ok; cases ok
    | ok r =>
      rw [first] at ok
      rw [List.foldl_cons, ← eq_goOn_of_follow first]
      exact ih ok

theorem foldl_dropWhile (names : List String) (p : Place) :
    (names.dropWhile (· = "")).reverse.foldl goOn p = names.reverse.foldl goOn p := by
  induction names with
  | nil => rfl
  | cons name names ih =>
    by_cases empty : name = ""
    · subst empty
      rw [List.dropWhile_cons_of_pos (by simp), ih, List.reverse_cons, List.foldl_append]
      rfl
    · rw [List.dropWhile_cons_of_neg (by simpa using empty)]

theorem placeOf_eq_namesOf : t.placeOf path = (namesOf path).foldl goOn (t.startOf path) := by
  unfold placeOf namesOf
  rw [foldl_dropWhile, List.reverse_reverse]

theorem placeOf_of_resolve {asDirectory : Bool} (ok : t.resolve path = .ok (p, asDirectory)) :
    p = t.placeOf path := by
  obtain ⟨e, ending, last, -⟩ := resolve_eq_ok_iff.1 ok
  obtain ⟨-, above, named, -⟩ := approach_eq_ok_iff.1 ending
  rw [placeOf_eq_namesOf, eq_goOn_of_follow last, eq_foldl_of_foldlM above, named]
  rcases List.eq_nil_or_concat (namesOf path) with none | ⟨front, name, all⟩
  · rw [none]
    rfl
  · rw [all, List.concat_eq_append, List.dropLast_concat, List.getLast?_concat, List.foldl_append]
    rfl

theorem placeOf_eq (same : t'.workingDirectory = t.workingDirectory) (path : String) :
    t'.placeOf path = t.placeOf path := by
  unfold placeOf startOf
  rw [same]

/-- A file of a directory is one name below the directory's place. -/
theorem placeOf_join {dir : String} (ends : EndsInPiece dir) (isName : IsName name) :
    t.placeOf (join dir name) = t.placeOf dir ++ [name] := by
  unfold placeOf
  rw [piecesOf_join ends isName, startOf_join ends isName, List.foldl_append]
  unfold goOn
  simp [isName.nonempty, isName.notDot, isName.notDots]

theorem placeOf_join_inj {dir other : String} (ends : EndsInPiece dir) (isName : IsName name)
    (isOther : IsName other) (same : t.placeOf (join dir name) = t.placeOf (join dir other)) :
    name = other := by
  rw [placeOf_join ends isName, placeOf_join ends isOther] at same
  exact List.singleton_inj.1 (List.append_cancel_left same)

/-! ### What becomes of files -/

theorem isFile_put_file (inside : p ≠ []) (contents : Bytes) (q : Place) :
    (t.put p (.file contents)).isFile q = (decide (q = p) || t.isFile q) := by
  unfold isFile
  by_cases same : q = p
  · rw [same, found_put_same inside]
    simp
  · rw [found_put_other same]
    simp [same]

theorem isFile_without (gone : Place → Bool) (p : Place) :
    (t.without gone).isFile p = (t.isFile p && ! gone p) := by
  unfold isFile
  by_cases outside : p = []
  · subst outside
    rfl
  cases left : gone p with
  | true => simp [found_without outside left]
  | false => simp [found_without_other left]

structure SameFiles (t t' : Tree) : Prop where
  file (p : Place) (contents : Bytes) :
    t'.entry? p = some (.file contents) ↔ t.entry? p = some (.file contents)
  workingDirectory : t'.workingDirectory = t.workingDirectory

theorem SameFiles.refl (t : Tree) : t.SameFiles t := ⟨fun _ _ => .rfl, rfl⟩

theorem SameFiles.trans {u : Tree} (first : t.SameFiles t') (second : t'.SameFiles u) :
    t.SameFiles u where
  file p contents := (second.file p contents).trans (first.file p contents)
  workingDirectory := second.workingDirectory.trans first.workingDirectory

theorem isFile_iff : t.isFile p ↔ ∃ contents, t.entry? p = some (.file contents) := by
  unfold isFile
  constructor
  · intro file
    split at file
    · next contents here => exact ⟨contents, here⟩
    · cases file
  · rintro ⟨contents, here⟩
    rw [here]

theorem SameFiles.isFile (h : t.SameFiles t') (p : Place) : t'.isFile p = t.isFile p := by
  rw [Bool.eq_iff_iff, isFile_iff, isFile_iff]
  exact exists_congr (h.file p)

theorem sameFiles_createDirectory (ok : t.createDirectory path = .ok t') : t.SameFiles t' := by
  obtain ⟨p, free, rfl⟩ := createDirectory_eq_ok ok
  refine ⟨fun q contents => ?_, rfl⟩
  by_cases same : q = p
  · subst same
    have inside : q ≠ [] := by
      rintro rfl
      cases free
    rw [free, found_put_same inside]
    simp
  · rw [found_put_other same]

theorem sameFiles_createDirectoriesWithin (fuel : Nat) (path : String) :
    t.SameFiles (t.createDirectoriesWithin fuel path).2 := by
  fun_induction createDirectoriesWithin fuel t path with
  | case1 => exact .refl _
  | case2 fuel t path nonempty made eq => exact sameFiles_createDirectory eq
  | case3 t path nonempty missing fuel above parent within eqWithin made eq ih =>
    rw [eqWithin] at ih
    exact ih.trans (sameFiles_createDirectory eq)
  | case4 t path settle nonempty missing fuel above parent within eqWithin fault eq ih =>
    rw [eqWithin] at ih
    exact ih
  | case5 t path nonempty missing fuel above parent failed ih => exact ih
  | case6 => exact .refl _
  | case7 => exact .refl _

theorem sameFiles_createDirectories (path : String) : t.SameFiles (t.createDirectories path).2 :=
  sameFiles_createDirectoriesWithin _ path

theorem writeFile_place (ok : t.writeFile path contents = .ok t') :
    t.placeOf path ≠ [] ∧ t' = t.put (t.placeOf path) (.file contents) := by
  obtain ⟨p, asDirectory, resolved, free, rfl⟩ := writeFile_eq_ok ok
  rw [← placeOf_of_resolve resolved]
  refine ⟨?_, rfl⟩
  rintro rfl
  exact free rfl

theorem removeDirectory_place (ok : t.removeDirectory path = .ok t') :
    t' = t.without (t.placeOf path).isPrefixOf := by
  obtain ⟨p, asDirectory, resolved, rfl⟩ := removeDirectory_eq_ok ok
  rw [← placeOf_of_resolve resolved, remove_eq_without]

theorem removeFile_place (ok : t.removeFile path = .ok t') :
    t' = t.without (t.placeOf path).isPrefixOf := by
  obtain ⟨p, asDirectory, resolved, rfl⟩ := removeFile_eq_ok ok
  rw [← placeOf_of_resolve resolved, remove_eq_without]

end ConnectorSync.Files.Tree
