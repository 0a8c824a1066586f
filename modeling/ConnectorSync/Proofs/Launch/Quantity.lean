import ConnectorSync.Launch.Resources
import Mathlib.Algebra.Field.Rat
import Mathlib.Data.List.TakeWhile

/-!
# The exact amount of a quantity

`quantity?` reads an amount as a double. `amount?` takes the same text apart in the same way and
gives the rational number that was written. A text is read as a double if and only if it has an
amount or writes one of the values that are not finite.
-/

namespace ConnectorSync.Decimal

open Text

structure Numeral where
  whole : List Char
  fraction : List Char
  rest : List Char

namespace Numeral

def isEmpty (n : Numeral) : Bool := n.whole.isEmpty && n.fraction.isEmpty

def mantissa (n : Numeral) : Nat := ofDigits (n.whole ++ n.fraction)

/-- The mantissa and the exponent of ten, if the rest is an exponent or nothing. -/
def scientific? (n : Numeral) : Option (Nat × Int) :=
  if n.isEmpty then none
  else
    match n.rest with
    | [] => some (n.mantissa, -n.fraction.length)
    | e :: more =>
      if e = 'e' ∨ e = 'E' then (exponent? more).map fun x => (n.mantissa, x - n.fraction.length)
      else none

theorem map_scientific? {α : Type} (f : Nat × Int → α) (n : Numeral) :
    n.scientific?.map f =
      if n.isEmpty then none
      else
        match n.rest with
        | [] => some (f (n.mantissa, -n.fraction.length))
        | e :: more =>
          if e = 'e' ∨ e = 'E' then
            (exponent? more).map fun x => f (n.mantissa, x - n.fraction.length)
          else none := by
  unfold scientific?
  split
  · rfl
  · split
    · rfl
    · split
      · exact Option.map_map ..
      · rfl

end Numeral

def afterPoint : List Char → List Char × List Char
  | '.' :: more => (more.takeWhile isDigit, more.dropWhile isDigit)
  | more => ([], more)

theorem afterPoint_of_ne {c : Char} (more : List Char) (other : c ≠ '.') :
    afterPoint (c :: more) = ([], c :: more) := by
  unfold afterPoint
  split
  · next same => exact absurd (List.cons.inj same).1 other
  · rfl

def numeral (cs : List Char) : Numeral :=
  let (fraction, rest) := afterPoint (cs.dropWhile isDigit)
  ⟨cs.takeWhile isDigit, fraction, rest⟩

theorem magnitude?_eq (cs : List Char) :
    magnitude? cs = (numeral cs).scientific?.map fun (m, x) => nearestDouble m x := by
  rw [Numeral.map_scientific?]
  unfold magnitude? numeral
  generalize cs.dropWhile isDigit = tail
  cases tail with
  | nil => rfl
  | cons c more =>
    by_cases point : c = '.'
    · subst point
      rfl
    · rw [afterPoint_of_ne more point]
      dsimp only
      split
      · next same => exact absurd (List.cons.inj same).1 point
      · rfl

/-! ### Numerals in a text -/

variable {whole fraction rest cs : List Char}

/-- A run of digits is read as far as it goes. -/
theorem takeWhile_digits (digits : ∀ c ∈ whole, isDigit c)
    (stops : ∀ c ∈ rest.head?, isDigit c = false) :
    (whole ++ rest).takeWhile isDigit = whole ∧ (whole ++ rest).dropWhile isDigit = rest := by
  rw [List.takeWhile_append_of_pos digits, List.dropWhile_append_of_pos digits]
  cases rest with
  | nil => exact ⟨List.append_nil _, rfl⟩
  | cons c more =>
    have stop : isDigit c = false := stops c rfl
    rw [List.takeWhile_cons_of_neg (by simp [stop]), List.dropWhile_cons_of_neg (by simp [stop])]
    exact ⟨List.append_nil _, rfl⟩

theorem numeral_whole (digits : ∀ c ∈ whole, isDigit c)
    (stops : ∀ c ∈ rest.head?, isDigit c = false ∧ c ≠ '.') :
    numeral (whole ++ rest) = ⟨whole, [], rest⟩ := by
  obtain ⟨taken, left⟩ := takeWhile_digits digits fun c first => (stops c first).1
  unfold numeral
  rw [taken, left]
  cases rest with
  | nil => rfl
  | cons c more => rw [afterPoint_of_ne more (stops c rfl).2]

theorem numeral_point (digits : ∀ c ∈ whole, isDigit c) (decimals : ∀ c ∈ fraction, isDigit c)
    (stops : ∀ c ∈ rest.head?, isDigit c = false) :
    numeral (whole ++ '.' :: (fraction ++ rest)) = ⟨whole, fraction, rest⟩ := by
  have point : ∀ c ∈ ('.' :: (fraction ++ rest)).head?, isDigit c = false := by
    rintro c ⟨⟩
    rfl
  obtain ⟨taken, left⟩ := takeWhile_digits digits point
  obtain ⟨takenAfter, leftAfter⟩ := takeWhile_digits decimals stops
  unfold numeral
  rw [taken, left, afterPoint, takenAfter, leftAfter]

theorem afterPoint_cases (tail : List Char) :
    (afterPoint tail = ([], tail)) ∨
      ∃ more, tail = '.' :: more ∧
        afterPoint tail = (more.takeWhile isDigit, more.dropWhile isDigit) := by
  unfold afterPoint
  split
  · exact .inr ⟨_, rfl, rfl⟩
  · exact .inl rfl

/-- A text that is a numeral to its end is a run of digits, or two of them around a point. -/
theorem eq_of_numeral (complete : (numeral cs).rest = []) :
    ((∀ c ∈ (numeral cs).whole, isDigit c) ∧ ∀ c ∈ (numeral cs).fraction, isDigit c) ∧
      (cs = (numeral cs).whole ∧ (numeral cs).fraction = [] ∨
        cs = (numeral cs).whole ++ '.' :: (numeral cs).fraction) := by
  have digits : ∀ c ∈ cs.takeWhile isDigit, isDigit c := fun c => List.mem_takeWhile_imp
  have joined : cs.takeWhile isDigit ++ cs.dropWhile isDigit = cs := List.takeWhile_append_dropWhile
  unfold numeral at complete ⊢
  obtain bare | ⟨more, tail, pair⟩ := afterPoint_cases (cs.dropWhile isDigit)
  · rw [bare] at complete ⊢
    have ends : cs.dropWhile isDigit = [] := complete
    rw [ends, List.append_nil] at joined
    exact ⟨⟨digits, nofun⟩, .inl ⟨joined.symm, rfl⟩⟩
  · rw [pair] at complete ⊢
    have ends : more.dropWhile isDigit = [] := complete
    have decimals : more.takeWhile isDigit = more := by
      rw [← List.append_nil (more.takeWhile isDigit), ← ends, List.takeWhile_append_dropWhile]
    refine ⟨⟨digits, fun c => List.mem_takeWhile_imp⟩, .inr ?_⟩
    dsimp only
    rw [decimals, ← tail, joined]

/-! ### Signs -/

/-- Whether a number is negative, and the number without its sign. -/
def sign : List Char → Bool × List Char
  | '-' :: cs => (true, cs)
  | '+' :: cs => (false, cs)
  | cs => (false, cs)

/-- A number as written: `± mantissa · 10 ^ exponent`. -/
structure Written where
  negative : Bool
  mantissa : Nat
  exponent : Int

def Written.value (w : Written) : ℚ :=
  let x : ℚ := w.mantissa * 10 ^ w.exponent
  if w.negative then -x else x

def written? (cs : List Char) : Option Written :=
  (numeral (sign cs).2).scientific?.map fun (m, x) => ⟨(sign cs).1, m, x⟩

theorem double?_eq (s : String) :
    double? s =
      let value := (magnitude? (sign s.toList).2).or (named? (sign s.toList).2)
      if (sign s.toList).1 then value.map (fun x => -x) else value := by
  unfold double?
  split
  next negative cs same =>
    have signed : sign s.toList = (negative, cs) := same
    rw [signed]

theorem double?_isSome (s : String) :
    (double? s).isSome ↔ (written? s.toList).isSome ∨ (named? (sign s.toList).2).isSome := by
  have settled : (double? s).isSome =
      ((magnitude? (sign s.toList).2).or (named? (sign s.toList).2)).isSome := by
    rw [double?_eq]
    dsimp only
    split
    · exact Option.isSome_map
    · rfl
  unfold written?
  rw [settled, magnitude?_eq, Option.isSome_or, Option.isSome_map, Option.isSome_map,
    Bool.or_eq_true]

end ConnectorSync.Decimal

namespace ConnectorSync.Launch

open Text Decimal

/-- The units with their factors as exact numbers. -/
def scales : List (List Char × ℚ) :=
  [("Ki".toList, 2 ^ 10), ("Mi".toList, 2 ^ 20), ("Gi".toList, 2 ^ 30), ("Ti".toList, 2 ^ 40),
    (['m'], 1 / 1000), (['k'], 10 ^ 3), (['K'], 10 ^ 3), (['M'], 10 ^ 6), (['G'], 10 ^ 9),
    (['T'], 10 ^ 12)]

def ending? {α : Type} (endings : List (List Char × α)) (cs : List Char) :
    Option (List Char × α) :=
  endings.find? fun e => e.1.isSuffixOf cs

def before (cs unit : List Char) : List Char := cs.take (cs.length - unit.length)

@[simp] theorem before_append (cs unit : List Char) : before (cs ++ unit) unit = cs := by
  simp [before]

@[simp] theorem before_nil (cs : List Char) : before cs [] = cs := by
  simp [before]

theorem ending?_eq_some {α : Type} {endings : List (List Char × α)} {cs : List Char}
    {e : List Char × α} (found : ending? endings cs = some e) :
    e ∈ endings ∧ before cs e.1 ++ e.1 = cs := by
  unfold ending? at found
  have ends := List.find?_some found
  exact ⟨List.mem_of_find?_eq_some found,
    List.suffix_iff_eq_append.1 (List.isSuffixOf_iff_suffix.1 ends)⟩

theorem findSome?_withoutEnding {α β : Type} (endings : List (List Char × α)) (cs : List Char)
    (f : List Char → α → β) :
    (endings.findSome? fun (unit, a) => (withoutEnding? unit cs).map fun number => f number a) =
      (ending? endings cs).map fun (unit, a) => f (before cs unit) a := by
  unfold ending?
  induction endings with
  | nil => rfl
  | cons e rest ih =>
    obtain ⟨unit, a⟩ := e
    rw [List.findSome?_cons, List.find?_cons]
    dsimp only
    cases ends : unit.isSuffixOf cs with
    | true =>
      rw [withoutEnding?, if_pos ends]
      rfl
    | false =>
      rw [withoutEnding?, if_neg (by simp [ends])]
      exact ih

/-- The unit at the end of a text and its scale. -/
def unitOf (cs : List Char) : List Char × ℚ := (ending? scales cs).getD ([], 1)

/-- What is written before the unit. -/
def numberOf (s : String) : List Char :=
  before (trim s).toList (unitOf (trim s).toList).1

/-- The exact amount that is written. -/
def amount? (s : String) : Option ℚ :=
  (written? (numberOf s)).map (·.value * (unitOf (trim s).toList).2)

theorem ending?_units (cs : List Char) :
    (ending? units cs).map Prod.fst = (ending? scales cs).map Prod.fst := by
  have same : units.map Prod.fst = scales.map Prod.fst := rfl
  have found {α : Type} (endings : List (List Char × α)) :
      (ending? endings cs).map Prod.fst = (endings.map Prod.fst).find? (·.isSuffixOf cs) := by
    rw [List.find?_map]
    rfl
  rw [found, found, same]

/-- A text is read as a double exactly if it writes a rational number or a value that is not
finite. -/
theorem quantity?_isSome (s : String) :
    (quantity? s).isSome ↔ (amount? s).isSome ∨ (named? (sign (numberOf s)).2).isSome := by
  have read : (quantity? s).isSome = (double? (String.ofList (numberOf s))).isSome := by
    have units := ending?_units (trim s).toList
    unfold quantity? numberOf unitOf
    dsimp only
    rw [findSome?_withoutEnding]
    cases binary : ending? Launch.units (trim s).toList with
    | none =>
      rw [binary] at units
      rw [Option.map_eq_none_iff.1 units.symm]
      simp [before]
    | some e =>
      rw [binary] at units
      obtain ⟨e', exact, same⟩ := Option.map_eq_some_iff.1 units.symm
      rw [exact]
      simp [same]
  unfold amount?
  rw [read, double?_isSome, String.toList_ofList, Option.isSome_map]

end ConnectorSync.Launch
