import Mathlib.Data.List.TakeWhile
import ConnectorSync.Launch.ProcessName

/-!
# What a process name keeps

A process name is the end of the image, step, job, attempt and suffix put together: as much as fits,
from its first letter on. It ends with its suffix, and with all that follows the image if there is
room for that.
-/

namespace ConnectorSync.Launch

open Text

def isLower (c : Char) : Bool := 'a' ≤ c && c ≤ 'z'

def isNameChar (c : Char) : Bool := isLower c || isDigit c || c = '-'

/-! ### Characters -/

theorem isLower_toLower {c : Char} (first : 'A' ≤ c) (last : c ≤ 'Z') :
    isLower c.toLower = true := by
  unfold Char.toLower
  rw [dif_pos ⟨first, last⟩]
  rw [Char.le_def, UInt32.le_iff_toNat_le] at first last
  have first : 65 ≤ c.val.toNat := first
  have last : c.val.toNat ≤ 90 := last
  have moved : (c.val + ('a'.val - 'A'.val)).toNat = c.val.toNat + 32 := by
    rw [UInt32.toNat_add]
    show (c.val.toNat + 32) % 2 ^ 32 = _
    omega
  simp only [isLower, Bool.and_eq_true, decide_eq_true_eq, Char.le_def, UInt32.le_iff_toNat_le,
    moved]
  show 97 ≤ _ ∧ _ ≤ 122
  omega

theorem isNameChar_plainChar (c : Char) : isNameChar (plainChar c) = true := by
  unfold plainChar
  split
  · next plain =>
    rcases plain with ⟨first, last⟩ | digit | rfl
    · simp [isNameChar, isLower, first, last]
    · simp [isNameChar, digit]
    · rfl
  · split
    · next upper => simp [isNameChar, isLower_toLower upper.1 upper.2]
    · rfl

theorem plainChar_of_isLower {c : Char} (lower : isLower c = true) : plainChar c = c := by
  unfold plainChar
  rw [if_pos]
  simp only [isLower, Bool.and_eq_true, decide_eq_true_eq] at lower
  exact .inl lower

theorem isLetter_of_isLower {c : Char} (lower : isLower c = true) : isLetter c = true := by
  unfold isLower at lower
  simp only [isLetter, lower, Bool.true_or]

theorem isLower_of_isLetter {c : Char} (letter : isLetter c = true) (plain : isNameChar c = true) :
    isLower c = true := by
  simp only [isLetter, Bool.or_eq_true, Bool.and_eq_true, decide_eq_true_eq] at letter
  rcases letter with ⟨first, last⟩ | ⟨first, last⟩
  · simp [isLower, first, last]
  · simp only [isNameChar, Bool.or_eq_true, decide_eq_true_eq] at plain
    rcases plain with (lower | digit) | rfl
    · exact lower
    · simp only [isDigit, Bool.and_eq_true, decide_eq_true_eq] at digit
      exact absurd (Char.le_trans first digit.2) (by decide)
    · exact absurd first (by decide)

/-! ### Ends of texts -/

variable {cs w : List Char} {n : Nat}

theorem lastChars_suffix (n : Nat) (cs : List Char) : lastChars n cs <:+ cs :=
  List.drop_suffix _ _

theorem length_lastChars (n : Nat) (cs : List Char) :
    (lastChars n cs).length = min n cs.length := by
  unfold lastChars
  rw [List.length_drop]
  omega

theorem lastChars_of_length_le (fits : cs.length ≤ n) : lastChars n cs = cs := by
  unfold lastChars
  rw [Nat.sub_eq_zero_of_le fits, List.drop_zero]

theorem suffix_lastChars (ends : w <:+ cs) (fits : w.length ≤ n) : w <:+ lastChars n cs := by
  refine List.suffix_of_suffix_length_le ends (lastChars_suffix n cs) ?_
  rw [length_lastChars]
  have shorter := ends.length_le
  omega

/-- Dropping what is too much from the front first changes nothing. -/
theorem lastChars_drop_append (xs ys : List Char) :
    lastChars n (xs.drop (xs.length + ys.length - n) ++ ys) = lastChars n (xs ++ ys) := by
  unfold lastChars
  -- Either the first part alone is shortened, or it is gone and the second is cut.
  by_cases fits : xs.length + ys.length - n ≤ xs.length
  · have nothing : (xs.drop (xs.length + ys.length - n) ++ ys).length - n = 0 := by
      rw [List.length_append, List.length_drop]
      omega
    rw [nothing, List.drop_zero, List.length_append, List.drop_append_of_le_length fits]
  · have none : xs.drop (xs.length + ys.length - n) = [] := List.drop_of_length_le (by omega)
    have rest : xs.length + ys.length - n - xs.length = ys.length - n := by omega
    rw [none, List.nil_append, List.length_append, List.drop_append, none, List.nil_append, rest]

theorem dropWhile_ne_nil {c : Char} (mem : c ∈ cs) (letter : isLetter c = true) :
    cs.dropWhile (! isLetter ·) ≠ [] := by
  intro none
  have all := List.dropWhile_eq_nil_iff.1 none c mem
  simp [letter] at all

theorem fromFirstLetter_eq {c : Char} (mem : c ∈ cs) (letter : isLetter c = true) :
    fromFirstLetter cs = cs.dropWhile (! isLetter ·) := by
  unfold fromFirstLetter
  dsimp only
  rw [if_neg]
  rw [List.isEmpty_iff]
  exact dropWhile_ne_nil mem letter

theorem fromFirstLetter_suffix (cs : List Char) : fromFirstLetter cs <:+ cs := by
  unfold fromFirstLetter
  dsimp only
  split
  · exact List.suffix_refl cs
  · exact List.dropWhile_suffix _

theorem suffix_fromFirstLetter {c : Char} (letter : isLetter c = true) (ends : c :: w <:+ cs) :
    c :: w <:+ fromFirstLetter cs := by
  rw [fromFirstLetter_eq (ends.mem List.mem_cons_self) letter]
  obtain ⟨before, rfl⟩ := ends
  rw [List.dropWhile_append]
  split
  · have kept : (c :: w).dropWhile (! isLetter ·) = c :: w :=
      List.dropWhile_cons_of_neg (by simp [letter])
    exact ⟨[], kept.symm⟩
  · exact List.suffix_append _ _

theorem fromFirstLetter_cons {c : Char} (mem : c ∈ cs) (letter : isLetter c = true) :
    ∃ first rest, fromFirstLetter cs = first :: rest ∧ isLetter first = true := by
  rw [fromFirstLetter_eq mem letter]
  obtain ⟨first, rest, same⟩ := List.exists_cons_of_ne_nil (dropWhile_ne_nil mem letter)
  refine ⟨first, rest, same, ?_⟩
  have leads := List.head?_dropWhile_not (! isLetter ·) cs
  rw [same] at leads
  simpa using leads

/-! ### The name -/

/-- A text with a lower-case letter, digit or hyphen in place of each of its characters. -/
def plainChars (s : String) : List Char := s.toList.map plainChar

def fullName (image : String) (step : Step) (jobId : String) (attempt : Nat) (suffix : String) :
    List Char :=
  plainChars (shortImageName image) ++ '-' :: nameTail step jobId attempt suffix

variable {image jobId suffix : String} {step : Step} {attempt limit : Nat}

/-- Shortening the image first keeps the same characters as cutting the whole name to the limit. -/
theorem toList_processName :
    (processName image step jobId attempt suffix limit).toList =
      fromFirstLetter (lastChars limit (fullName image step jobId attempt suffix)) := by
  have cut := lastChars_drop_append (n := limit) (plainChars (shortImageName image))
    ('-' :: nameTail step jobId attempt suffix)
  rw [List.length_cons, ← Nat.add_assoc, Nat.add_right_comm] at cut
  unfold fullName
  rw [← cut]
  unfold processName plainChars shortImageName
  rw [String.toList_ofList, String.toList_ofList]

theorem isNameChar_of_mem_fullName {c : Char}
    (mem : c ∈ fullName image step jobId attempt suffix) : isNameChar c = true := by
  rcases List.mem_append.1 mem with mem | mem
  · obtain ⟨raw, -, rfl⟩ := List.mem_map.1 mem
    exact isNameChar_plainChar raw
  · rcases List.mem_cons.1 mem with rfl | mem
    · rfl
    · obtain ⟨raw, -, rfl⟩ := List.mem_map.1 mem
      exact isNameChar_plainChar raw

theorem nameTail_suffix : nameTail step jobId attempt suffix <:+
    fullName image step jobId attempt suffix :=
  (List.suffix_cons _ _).trans (List.suffix_append _ _)

theorem suffix_nameTail (lower : ∀ c ∈ suffix.toList, isLower c = true) :
    suffix.toList <:+ nameTail step jobId attempt suffix := by
  have same : suffix.toList.map plainChar = suffix.toList := by
    refine (List.map_congr_left fun c mem => ?_).trans (List.map_id _)
    exact plainChar_of_isLower (lower c mem)
  unfold nameTail
  rw [String.toList_append, List.map_append, same]
  exact List.suffix_append _ _

theorem nameTail_cons : ∃ first rest, nameTail step jobId attempt suffix = first :: rest ∧
    isLetter first = true := by
  unfold nameTail
  simp only [String.toList_append, List.map_append, List.append_assoc]
  cases step <;> exact ⟨_, _, rfl, by decide⟩

/-- A name that fits the platform: within its limit, of plain characters, from a letter on and up to
the whole suffix. All that follows the image is kept if there is room for it, so that only the image
is shortened, and nothing is cut off if there is room for all. -/
theorem processName_fits (given : suffix ≠ "") (lower : ∀ c ∈ suffix.toList, isLower c = true)
    (room : suffix.length ≤ limit) :
    let tail := plainChars (step.name ++ "-" ++ jobId ++ "-" ++ decimal attempt ++ "-" ++ suffix)
    let full := plainChars (shortImageName image) ++ '-' :: tail
    let name := (processName image step jobId attempt suffix limit).toList
    name.length ≤ limit ∧
      (∀ c ∈ name, isNameChar c = true) ∧
      (∃ first rest, name = first :: rest ∧ isLower first = true) ∧
      suffix.toList <:+ name ∧
      (tail.length ≤ limit → ∃ kept, kept <:+ plainChars (shortImageName image) ++ ['-'] ∧
        name = kept ++ tail) ∧
      (full.length ≤ limit → name = full.dropWhile (! isLetter ·)) := by
  intro tail full name
  have same : name = fromFirstLetter (lastChars limit full) := toList_processName
  obtain ⟨first, rest, begins⟩ : ∃ first rest, suffix.toList = first :: rest :=
    List.exists_cons_of_ne_nil fun none => given (String.toList_eq_nil_iff.1 none)
  have letter : isLetter first = true := by
    refine isLetter_of_isLower (lower first ?_)
    rw [begins]
    exact List.mem_cons_self
  have ends : first :: rest <:+ full := by
    rw [← begins]
    exact (suffix_nameTail lower).trans nameTail_suffix
  have kept : first :: rest <:+ lastChars limit full := by
    refine suffix_lastChars ends ?_
    rw [← begins, String.length_toList]
    exact room
  have within : name <:+ lastChars limit full := by
    rw [same]
    exact fromFirstLetter_suffix _
  have plain : ∀ c ∈ name, isNameChar c = true := fun c mem =>
    isNameChar_of_mem_fullName ((lastChars_suffix limit full).mem (within.mem mem))
  refine ⟨?_, plain, ?_, ?_, fun fits => ?_, fun fits => ?_⟩
  · have shorter := within.length_le
    rw [length_lastChars] at shorter
    omega
  · obtain ⟨c, others, leads, isLetter⟩ := fromFirstLetter_cons (kept.mem List.mem_cons_self) letter
    rw [← same] at leads
    refine ⟨c, others, leads, isLower_of_isLetter isLetter (plain c ?_)⟩
    rw [leads]
    exact List.mem_cons_self
  · rw [begins, same]
    exact suffix_fromFirstLetter letter kept
  · obtain ⟨c, others, begins, isLetter⟩ : ∃ c others, tail = c :: others ∧ isLetter c = true :=
      nameTail_cons
    have whole : tail <:+ name := by
      rw [same, begins]
      refine suffix_fromFirstLetter isLetter (suffix_lastChars ?_ ?_)
      · rw [← begins]
        exact nameTail_suffix
      · rw [← begins]
        exact fits
    obtain ⟨before, eq⟩ := whole
    obtain ⟨lost, parts⟩ : name <:+ full := within.trans (lastChars_suffix limit full)
    refine ⟨before, ⟨lost, ?_⟩, eq.symm⟩
    have parts : (lost ++ before) ++ tail =
        (plainChars (shortImageName image) ++ ['-']) ++ tail := by
      rw [List.append_assoc, eq, parts, List.append_assoc]
      rfl
    exact List.append_cancel_right parts
  · rw [same, lastChars_of_length_le fits, fromFirstLetter_eq (ends.mem List.mem_cons_self) letter]

example : processName "registry/12345:6" .spec "9" 0 "zzzzz" 16 = "spec-9-0-zzzzz" := by cbv

/-- Only a digit of the image fits, and is dropped. -/
theorem processName_fits_digits :
    ("zzzzz" ≠ "" ∧ (∀ c ∈ "zzzzz".toList, isLower c = true) ∧ "zzzzz".length ≤ 16) ∧
      "zzzzz".toList <:+ (processName "12345" .spec "9" 0 "zzzzz" 16).toList := by
  have given : "zzzzz" ≠ "" := by decide
  have all : "zzzzz".toList.all isLower = true := by decide
  have lower : ∀ c ∈ "zzzzz".toList, isLower c = true := List.all_eq_true.1 all
  have room : "zzzzz".length ≤ 16 := by decide
  obtain ⟨-, -, -, ends, -⟩ :=
    @processName_fits "12345" "9" "zzzzz" .spec 0 16 given lower room
  exact ⟨⟨given, lower, room⟩, ends⟩

end ConnectorSync.Launch
