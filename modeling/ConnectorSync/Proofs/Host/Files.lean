import ConnectorSync.Host.Request
import ConnectorSync.Proofs.Files.Place

/-!
# What requests make of the host's files

How the host answers, and what it does to its files. A request that fails may have been carried out
in part: some directories were made, a file was put with a part of its contents, some of a directory
was removed.
-/

namespace ConnectorSync.Host

open Files

inductive Effect
  | nothing
  | put (path : String) (contents : Bytes)
  | removed (gone : Place → Bool)

def isAboutFiles : Request → Bool
  | .createDirectories _ | .writeFile .. | .removeFile _ | .removeDirectory _ => true
  | _ => false

inductive Answers (t : Tree) : (r : Request) → r.Answer → Effect → Tree → Prop
  | made (path : String) :
    Answers t (.createDirectories path) (t.createDirectories path).1 .nothing
      (t.createDirectories path).2
  | partlyMade (path above : String) (fault : Fault) :
    Answers t (.createDirectories path) (.error fault) .nothing (t.createDirectories above).2
  | written (path : String) (contents : Bytes) {tree : Tree}
    (ok : t.writeFile path contents = .ok tree) :
    Answers t (.writeFile path contents) (.ok ()) (.put path contents) tree
  | partlyWritten (path : String) (contents part : Bytes) (fault : Fault) {tree : Tree}
    (ok : t.writeFile path part = .ok tree) :
    Answers t (.writeFile path contents) (.error fault) (.put path part) tree
  | refused (path : String) (contents : Bytes) (fault : Fault) :
    Answers t (.writeFile path contents) (.error fault) .nothing t
  | fileRemoved (path : String) {tree : Tree} (ok : t.removeFile path = .ok tree) :
    Answers t (.removeFile path) (.ok ()) (.removed (t.placeOf path).isPrefixOf) tree
  | fileKept (path : String) (fault : Fault) :
    Answers t (.removeFile path) (.error fault) .nothing t
  | removed (path : String) {tree : Tree} (ok : t.removeDirectory path = .ok tree) :
    Answers t (.removeDirectory path) (.ok ()) (.removed (t.placeOf path).isPrefixOf) tree
  | partlyRemoved (path : String) (gone : Place → Bool) (fault : Fault)
    (below : ∀ p, gone p → t.placeOf path <+: p) :
    Answers t (.removeDirectory path) (.error fault) (.removed gone) (t.without gone)
  | other (r : Request) (answer : r.Answer) (apart : isAboutFiles r = false) :
    Answers t r answer .nothing t

def Effect.Makes (t t' : Tree) : Effect → Prop
  | .nothing => t.SameFiles t'
  | .put path contents => t.placeOf path ≠ [] ∧ t' = t.put (t.placeOf path) (.file contents)
  | .removed gone => t' = t.without gone

variable {t t' : Tree} {effect : Effect}

theorem Effect.Makes.workingDirectory (h : effect.Makes t t') :
    t'.workingDirectory = t.workingDirectory := by
  cases effect with
  | nothing => exact h.workingDirectory
  | put => rw [h.2]; rfl
  | removed => rw [h]; rfl

theorem Effect.Makes.placeOf_eq (h : effect.Makes t t') (path : String) :
    t'.placeOf path = t.placeOf path := Tree.placeOf_eq h.workingDirectory path

namespace Answers

theorem makes {r : Request} {answer : r.Answer} (h : Answers t r answer effect t') :
    effect.Makes t t' := by
  cases h with
  | made path => exact Tree.sameFiles_createDirectories path
  | partlyMade _ above => exact Tree.sameFiles_createDirectories above
  | written _ _ ok => exact Tree.writeFile_place ok
  | partlyWritten _ _ part _ ok => exact Tree.writeFile_place ok
  | refused => exact .refl t
  | fileRemoved _ ok => exact Tree.removeFile_place ok
  | fileKept => exact .refl t
  | removed _ ok => exact Tree.removeDirectory_place ok
  | partlyRemoved => rfl
  | other => exact .refl t

theorem of_run {c : Command} {answer : Except Fault Ended}
    (h : Answers t (.run c) answer effect t') : effect = .nothing ∧ t' = t := by
  cases h
  exact ⟨rfl, rfl⟩

theorem of_spawn {c : Command} {answer : Except Fault Child}
    (h : Answers t (.spawn c) answer effect t') : effect = .nothing ∧ t' = t := by
  cases h
  exact ⟨rfl, rfl⟩

theorem of_createDirectories {path : String} {answer : Except Fault Unit}
    (h : Answers t (.createDirectories path) answer effect t') : effect = .nothing := by
  cases h with
  | made => rfl
  | partlyMade => rfl
  | other _ _ apart => cases apart

/-- A write that fails puts a part of what it should, or nothing. -/
theorem of_writeFile {path : String} {contents : Bytes} {answer : Except Fault Unit}
    (h : Answers t (.writeFile path contents) answer effect t') :
    (answer = .ok () ∧ effect = .put path contents) ∨
      ∃ fault, answer = .error fault ∧ (effect = .nothing ∨ ∃ part, effect = .put path part) := by
  cases h with
  | written => exact .inl ⟨rfl, rfl⟩
  | partlyWritten _ _ part fault => exact .inr ⟨fault, rfl, .inr ⟨part, rfl⟩⟩
  | refused _ _ fault => exact .inr ⟨fault, rfl, .inl rfl⟩
  | other _ _ apart => cases apart

theorem of_removeDirectory {path : String} {answer : Except Fault Unit}
    (h : Answers t (.removeDirectory path) answer effect t') :
    ∃ gone, effect = .removed gone ∧ ∀ p, gone p → t.placeOf path <+: p := by
  cases h with
  | removed => exact ⟨_, rfl, fun p => List.isPrefixOf_iff_prefix.1⟩
  | partlyRemoved _ gone _ below => exact ⟨gone, rfl, below⟩
  | other _ _ apart => cases apart

end Answers

/-! ### A host that carries out what it is asked -/

/-- The answer of a host that has every image. Its clients start or do not. -/
def carryOut (starts : Bool) (t : Tree) : (r : Request) → Option (r.Answer × Effect × Tree)
  | .run _ => some (.ok ⟨some 0, [], []⟩, .nothing, t)
  | .spawn _ => some (if starts then .ok 0 else .error .notFound, .nothing, t)
  | .createDirectories path =>
    some ((t.createDirectories path).1, .nothing, (t.createDirectories path).2)
  | .writeFile path contents =>
    match t.writeFile path contents with
    | .ok tree => some (.ok (), .put path contents, tree)
    | .error fault => some (.error fault, .nothing, t)
  | .removeDirectory path =>
    match t.removeDirectory path with
    | .ok tree => some (.ok (), .removed (t.placeOf path).isPrefixOf, tree)
    | .error _ => none
  | _ => none

theorem answers_carryOut {starts : Bool} {r : Request} {answer : r.Answer}
    (replied : carryOut starts t r = some (answer, effect, t')) : Answers t r answer effect t' := by
  cases r with
  | run | spawn =>
    cases replied
    exact .other _ _ rfl
  | createDirectories path =>
    cases replied
    exact .made path
  | writeFile path contents =>
    simp only [carryOut] at replied
    split at replied
    · next ok =>
      cases replied
      exact .written path contents ok
    · next fault _ =>
      cases replied
      exact .refused path contents fault
  | removeDirectory path =>
    simp only [carryOut] at replied
    split at replied
    · next ok =>
      cases replied
      exact .removed path ok
    · cases replied
  | _ => cases replied

end ConnectorSync.Host
