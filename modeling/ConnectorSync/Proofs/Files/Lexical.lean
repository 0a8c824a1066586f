import ConnectorSync.Proofs.Files.Tree

/-!
# Paths by their texts

Where a path leads by its text alone, whatever is there: going up takes back the name before. A path
lies below another one if it goes on from it by names.
-/

namespace ConnectorSync.Files

open Component

/-- A path gone on by one component. Above the root is the root again. -/
def climb (path : List Component) : Component → List Component
  | root => [root]
  | current => path
  | normal name => path ++ [normal name]
  | parent =>
    match path.getLast? with
    | some (normal _) => path.dropLast
    | some root => path
    | _ => path ++ [parent]

/-- A path without the names that it takes back. -/
def lexical (path : String) : List Component := (components path).foldl climb []

/-- Nothing but names, so that every step leads further down. -/
def OfNames (s : List Component) : Prop := ∀ c ∈ s, ∃ name, c = normal name

/-- A path stays within wherever it begins. -/
def Inner (path : String) : Prop := OfNames (lexical path)

/-- A path goes on from a base, by names. -/
def Below (base path : String) : Prop :=
  ∃ rest, rest ≠ [] ∧ OfNames rest ∧ lexical path = lexical base ++ rest

/-! ### Joined paths -/

def stepsOf (path : String) : List Component := (splitSlashes path.toList).filterMap ofPiece

variable {path : String} {s : List Component}

theorem startsWith_slash_iff : path.startsWith "/" = true ↔ ∃ rest, path.toList = '/' :: rest := by
  rw [String.startsWith_string_iff]
  exact ⟨fun ⟨rest, same⟩ => ⟨rest, same.symm⟩, fun ⟨rest, same⟩ => ⟨rest, same.symm⟩⟩

theorem foldl_components (path : String) (s : List Component) :
    (components path).foldl climb s =
      (stepsOf path).foldl climb (if path.startsWith "/" then [root] else s) := by
  unfold components stepsOf
  cases chars : path.toList with
  | nil =>
    have relative : ¬ path.startsWith "/" := by
      rw [startsWith_slash_iff, chars]
      exact nofun
    rw [if_neg relative]
    rfl
  | cons c rest =>
    by_cases slash : c = '/'
    · have absolute : path.startsWith "/" := startsWith_slash_iff.2 ⟨rest, by rw [chars, slash]⟩
      obtain ⟨piece, pieces, split⟩ := List.exists_cons_of_ne_nil (splitSlashes_ne_nil rest)
      rw [if_pos absolute, splitSlashes, if_pos slash, split]
      rfl
    · have relative : ¬ path.startsWith "/" := by
        rw [startsWith_slash_iff, chars]
        rintro ⟨_, same⟩
        exact slash (List.cons.inj same).1
      obtain ⟨piece, pieces, split⟩ := List.exists_cons_of_ne_nil (splitSlashes_ne_nil rest)
      rw [if_neg relative, splitSlashes, if_neg slash, split]
      by_cases dot : c :: piece = ['.']
      · simp only [dot]
        rfl
      · rw [List.filterMap_cons]
        simp only [reduceCtorEq, if_false, dot]
        cases ofPiece (c :: piece) <;> rfl

theorem exists_of_endsWith (slash : path.endsWith "/" = true) : ∃ before, path = before ++ "/" := by
  rw [String.endsWith_eq_endsWith_toSlice, String.Slice.endsWith_string_iff,
    String.copy_toSlice] at slash
  obtain ⟨before, same⟩ := slash
  refine ⟨String.ofList before, String.toList_inj.1 ?_⟩
  rw [String.toList_append, String.toList_ofList, same]

theorem stepsOf_slash (before after : String) :
    stepsOf (before ++ "/" ++ after) = stepsOf before ++ stepsOf after := by
  unfold stepsOf
  rw [String.toList_append, String.toList_append, List.append_assoc,
    show "/".toList = ['/'] from rfl, List.singleton_append, splitSlashes_slash,
    List.filterMap_append]

theorem lexical_append {base relative rest : String} (nonempty : base ≠ "")
    (steps : stepsOf (base ++ rest) = stepsOf base ++ stepsOf relative)
    (within : ¬ relative.startsWith "/") :
    lexical (base ++ rest) = (components relative).foldl climb (lexical base) := by
  have same : (base ++ rest).startsWith "/" = base.startsWith "/" := by
    obtain ⟨c, cs, chars⟩ := List.exists_cons_of_ne_nil
      (fun none => nonempty (String.toList_eq_nil_iff.1 none))
    rw [Bool.eq_iff_iff, startsWith_slash_iff, startsWith_slash_iff, String.toList_append, chars]
    simp
  unfold lexical
  rw [foldl_components, foldl_components relative, foldl_components base, if_neg within, same, steps,
    List.foldl_append]

theorem lexical_join (base relative : String) :
    lexical (join base relative) = (components relative).foldl climb (lexical base) := by
  unfold join
  by_cases absolute : relative.startsWith "/"
  · rw [if_pos absolute, foldl_components, if_pos absolute]
    unfold lexical
    rw [foldl_components, if_pos absolute]
  rw [if_neg absolute]
  by_cases empty : base = ""
  · subst empty
    rfl
  by_cases slash : base.endsWith "/"
  · rw [if_pos (by simp [slash])]
    refine lexical_append empty ?_ absolute
    obtain ⟨before, rfl⟩ := exists_of_endsWith slash
    rw [stepsOf_slash, ← String.append_empty (s := before ++ "/"), stepsOf_slash]
    show _ = stepsOf before ++ [] ++ _
    rw [List.append_nil]
  · rw [if_neg (by simp [empty, slash]), String.append_assoc]
    refine lexical_append empty ?_ absolute
    rw [← String.append_assoc, stepsOf_slash]

/-! ### Paths that stay within -/

theorem ofNames_append {t : List Component} : OfNames (s ++ t) ↔ OfNames s ∧ OfNames t :=
  List.forall_mem_append

theorem not_ofNames_root : ¬ OfNames [root] := fun h => nomatch h root (.head _)

theorem not_ofNames_parent : ¬ OfNames [parent] := fun h => nomatch h parent (.head _)

/-- What is no name is never taken back. -/
theorem ofNames_of_climb {c : Component} (h : OfNames (climb s c)) : OfNames s := by
  cases c with
  | root => exact absurd h not_ofNames_root
  | current => exact h
  | normal name => exact (ofNames_append.1 h).1
  | parent =>
    simp only [climb] at h
    split at h
    · next name last =>
      obtain ⟨front, rfl⟩ := List.getLast?_eq_some_iff.1 last
      rw [List.dropLast_concat] at h
      exact ofNames_append.2 ⟨h, fun c mem => ⟨name, List.mem_singleton.1 mem⟩⟩
    · exact h
    · exact (ofNames_append.1 h).1

theorem ofNames_of_foldl {cs : List Component} (h : OfNames (cs.foldl climb s)) : OfNames s := by
  induction cs generalizing s with
  | nil => exact h
  | cons c cs ih => exact ofNames_of_climb (ih h)

theorem climb_append (base : List Component) {c : Component} (h : OfNames (climb s c)) :
    climb (base ++ s) c = base ++ climb s c := by
  cases c with
  | root => exact absurd h not_ofNames_root
  | current => rfl
  | normal name => exact List.append_assoc ..
  | parent =>
    have names := ofNames_of_climb h
    rcases List.eq_nil_or_concat s with rfl | ⟨front, last, rfl⟩
    · exact absurd h not_ofNames_parent
    · obtain ⟨name, rfl⟩ := names last (by simp)
      simp [climb]

/-- A path that only leads to names leads there from any place. -/
theorem foldl_climb_append (base : List Component) {cs : List Component}
    (h : OfNames (cs.foldl climb s)) : cs.foldl climb (base ++ s) = base ++ cs.foldl climb s := by
  induction cs generalizing s with
  | nil => rfl
  | cons c cs ih =>
    rw [List.foldl_cons, climb_append base (ofNames_of_foldl h)]
    exact ih h

theorem Inner.lexical_join {relative : String} (inner : Inner relative) (base : String) :
    lexical (join base relative) = lexical base ++ lexical relative := by
  have below := foldl_climb_append (lexical base) inner
  rw [List.append_nil] at below
  rw [Files.lexical_join, below]
  rfl

/-- A path that lies below a directory lies below it wherever the directory is put. -/
theorem Below.moved {base moved relative : String} (below : Below base (join base relative))
    (names : OfNames (lexical base)) (same : lexical moved = s ++ lexical base) :
    Below moved (join moved relative) := by
  obtain ⟨rest, nonempty, further, joined⟩ := below
  refine ⟨rest, nonempty, further, ?_⟩
  rw [lexical_join] at joined ⊢
  have within : OfNames ((components relative).foldl climb (lexical base)) := by
    rw [joined]
    exact ofNames_append.2 ⟨names, further⟩
  rw [same, foldl_climb_append s within, joined, List.append_assoc]

theorem IsName.components_eq {name : String} (isName : IsName name) :
    components name = [normal name] := by
  have nonempty : name.toList ≠ [] := fun none => isName.nonempty (String.toList_eq_nil_iff.1 none)
  have notDot : name.toList ≠ ['.'] := fun dot => isName.notDot (String.toList_inj.1 dot)
  have notDots : name.toList ≠ ['.', '.'] := fun dots => isName.notDots (String.toList_inj.1 dots)
  unfold components ofPiece
  rw [splitSlashes_of_noSlash isName.noSlash]
  simp [nonempty, notDot, notDots]

theorem IsName.lexical_join {name : String} (isName : IsName name) (base : String) :
    lexical (join base name) = lexical base ++ [normal name] := by
  rw [Files.lexical_join, isName.components_eq]
  rfl

end ConnectorSync.Files
