import ConnectorSync.Json.Draft
import ConnectorSync.Json.Writer
import ConnectorSync.Proofs.Text.Numeral

/-!
# Lexing what was written

What the lexer makes of the parts of a written value: one lexeme of each, which the builder is given.
A number has no end of its own; the character after it ends it, or the end of the text.
-/

namespace ConnectorSync.Json

open Text

namespace Lexer

variable {l : Lexer} {b : Builder} {cs : List Char} {n : Numeral}

def run (l : Lexer) (cs : List Char) : Lexer := cs.foldl step l

@[simp] theorem run_nil (l : Lexer) : l.run [] = l := rfl

@[simp] theorem run_cons (l : Lexer) (c : Char) (cs : List Char) :
    l.run (c :: cs) = (l.step c).run cs := rfl

@[simp] theorem run_append (l : Lexer) (cs ds : List Char) :
    l.run (cs ++ ds) = (l.run cs).run ds := List.foldl_append

def built (l : Lexer) : Builder := l.found.reverse.foldl Builder.step {}

theorem built_emit (l : Lexer) (token : Token) :
    (l.emit token).built = l.built.step ⟨token, l.began⟩ := by
  simp [built, emit]

/-! ### Signs -/

structure Stands (l : Lexer) (b : Builder) : Prop where
  mode : l.mode = .between
  built : l.built = b

theorem Stands.step_eq (h : l.Stands b) (c : Char) : l.step c = l.stepBetween c := by
  rw [step, h.mode]

def sign? : Char → Option Token
  | '\x7b' => some .openBrace
  | '\x7d' => some .closeBrace
  | '[' => some .openBracket
  | ']' => some .closeBracket
  | ',' => some .comma
  | ':' => some .colon
  | _ => none

theorem Stands.sign (h : l.Stands b) {c : Char} {token : Token} (known : sign? c = some token) :
    ∃ place, (l.step c).Stands (b.step ⟨token, place⟩) := by
  rw [h.step_eq, ← h.built]
  unfold sign? at known
  split at known <;> cases known <;> exact ⟨_, rfl, built_emit ..⟩

/-! ### Strings -/

/-- The lexer is in a string whose characters so far, last first, are given. -/
structure Quotes (l : Lexer) (b : Builder) (cs : List Char) : Prop where
  mode : l.mode = .string (.ok cs) none
  built : l.built = b

theorem utf8Size_hexDigit : ∀ n < 16, (hexDigit n).utf8Size = 1 := by decide

theorem ofHex?_hexDigits :
    ∀ n < 32, ofHex? ['0', '0', hexDigit (n / 16), hexDigit (n % 16)] = some n := by decide

/-- A character is written as the letter of its escape, by its number, or as it is. -/
theorem escapeChar_cases (c : Char) :
    (∃ e, escapeChar c = ['\\', e] ∧ escaped? e = some c ∧ e ≠ 'u') ∨
    (c.toNat < 0x20 ∧ escapeChar c =
      ['\\', 'u', '0', '0', hexDigit (c.toNat / 16), hexDigit (c.toNat % 16)]) ∨
    (escapeChar c = [c] ∧ c ≠ '\"' ∧ c ≠ '\\' ∧ ¬ c.toNat < 0x20) := by
  unfold escapeChar
  by_cases quote : c = '\"'
  · subst quote
    exact .inl ⟨_, rfl, rfl, by decide⟩
  by_cases backslash : c = '\\'
  · subst backslash
    exact .inl ⟨_, rfl, rfl, by decide⟩
  rw [if_neg quote, if_neg backslash]
  iterate 5
    split
    · next same =>
      subst same
      exact .inl ⟨_, rfl, rfl, by decide⟩
  split
  · next small => exact .inr (.inl ⟨small, rfl⟩)
  · next large => exact .inr (.inr ⟨rfl, quote, backslash, large⟩)

theorem Quotes.letter (h : l.Quotes b cs) {c e : Char} (known : escaped? e = some c)
    (letter : e ≠ 'u') : (l.run ['\\', e]).Quotes b (c :: cs) := by
  obtain ⟨mode, found, here, began⟩ := l
  obtain ⟨rfl, built⟩ := h
  have step : Lexer.run ⟨.string (.ok cs) none, found, here, began⟩ ['\\', e] =
      stepEscape ⟨.escape (.ok cs) none, found, here.after '\\', began⟩ (.ok cs) none e := rfl
  rw [step, stepEscape, if_neg letter]
  simp only [known]
  exact ⟨rfl, built⟩

structure Counts (l : Lexer) (b : Builder) (digits cs : List Char) : Prop where
  mode : l.mode = .hex digits (.ok cs) none
  built : l.built = b

theorem Quotes.opens (h : l.Quotes b cs) : (l.run ['\\', 'u']).Counts b [] cs := by
  obtain ⟨mode, found, here, began⟩ := l
  obtain ⟨rfl, built⟩ := h
  exact ⟨rfl, built⟩

theorem Counts.more {digits : List Char} {c : Char} (h : l.Counts b digits cs)
    (short : (digits ++ [c]).foldl (fun n c => n + c.utf8Size) 0 < 4) :
    (l.step c).Counts b (digits ++ [c]) cs := by
  rw [step, h.mode]
  simp only [stepHex, if_pos short]
  exact ⟨rfl, h.built⟩

theorem Counts.last {digits : List Char} {c : Char} {n : Nat} (h : l.Counts b digits cs)
    (long : ¬ (digits ++ [c]).foldl (fun n c => n + c.utf8Size) 0 < 4)
    (value : ofHex? (digits ++ [c]) = some n) (alone : n < 0xD800) :
    (l.step c).Quotes b (Char.ofNat n :: cs) := by
  have single (place : Mark) :
      afterHex (.ok cs) none n place = (.ok (Char.ofNat n :: cs), none) := by
    rw [afterHex, if_neg (by omega), if_neg (by omega)]
    rfl
  rw [step, h.mode]
  simp only [stepHex, if_neg long, value, single]
  exact ⟨rfl, h.built⟩

theorem Quotes.hex (h : l.Quotes b cs) {n : Nat} (small : n < 0x20) :
    (l.run ['\\', 'u', '0', '0', hexDigit (n / 16), hexDigit (n % 16)]).Quotes b
      (Char.ofNat n :: cs) := by
  have zero : Char.utf8Size '0' = 1 := by decide
  have high := utf8Size_hexDigit (n / 16) (by omega)
  have low := utf8Size_hexDigit (n % 16) (by omega)
  have value := ofHex?_hexDigits n small
  have first := h.opens.more (c := '0') (by simp [zero])
  have second := first.more (c := '0') (by simp [zero])
  have third := second.more (c := hexDigit (n / 16)) (by simp [zero, high])
  exact third.last (by simp [zero, high, low]) value (by omega)

theorem Quotes.escape (h : l.Quotes b cs) (c : Char) :
    (l.run (escapeChar c)).Quotes b (c :: cs) := by
  obtain ⟨e, same, known, letter⟩ | ⟨small, same⟩ | ⟨same, quote, backslash, large⟩ :=
    escapeChar_cases c
  · rw [same]
    exact h.letter known letter
  · rw [same]
    simpa using h.hex small
  · obtain ⟨mode, found, here, began⟩ := l
    obtain ⟨rfl, built⟩ := h
    rw [same, run_cons, run_nil, step]
    simp only [stepString, if_neg quote, if_neg backslash, if_neg large]
    exact ⟨rfl, built⟩

theorem Quotes.escapes (h : l.Quotes b cs) (ds : List Char) :
    (l.run (ds.flatMap escapeChar)).Quotes b (ds.reverse ++ cs) := by
  induction ds generalizing l cs with
  | nil => exact h
  | cons d ds ih =>
    rw [List.flatMap_cons, run_append, List.reverse_cons, List.append_assoc]
    exact ih (h.escape d)

theorem Quotes.close (h : l.Quotes b cs) :
    ∃ place, (l.step '\"').Stands (b.step ⟨.string (.ok (String.ofList cs.reverse)), place⟩) := by
  obtain ⟨mode, found, here, began⟩ := l
  obtain ⟨rfl, rfl⟩ := h
  exact ⟨began, rfl, built_emit ..⟩

/-- A quoted text is one lexeme, with the text. -/
theorem Stands.quote (h : l.Stands b) (s : String) :
    ∃ place, (l.run (quote s)).Stands (b.step ⟨.string (.ok s), place⟩) := by
  have opened : (l.step '\"').Quotes b [] := by
    rw [h.step_eq]
    exact ⟨rfl, h.built⟩
  have inside := opened.escapes s.toList
  rw [List.append_nil] at inside
  obtain ⟨place, closed⟩ := inside.close
  rw [List.reverse_reverse, String.ofList_toList] at closed
  rw [Json.quote, List.cons_append, run_cons, run_append]
  exact ⟨place, closed⟩

/-! ### Words -/

theorem Stands.null (h : l.Stands b) :
    ∃ place, (l.run Value.null.write).Stands (b.step ⟨.null, place⟩) := by
  obtain ⟨mode, found, here, began⟩ := l
  obtain ⟨rfl, rfl⟩ := h
  exact ⟨_, rfl, built_emit ..⟩

theorem Stands.bool (h : l.Stands b) (x : Bool) :
    ∃ place, (l.run (Value.bool x).write).Stands (b.step ⟨.bool x, place⟩) := by
  obtain ⟨mode, found, here, began⟩ := l
  obtain ⟨rfl, rfl⟩ := h
  cases x <;> exact ⟨_, rfl, built_emit ..⟩

/-! ### Values that may still go on -/

/-- The lexer with a number, if it is in one, ended here. -/
def settle (l : Lexer) : Lexer :=
  match l.mode with
  | .number _ n => l.endNumber n
  | _ => l

structure Ends (l : Lexer) (b : Builder) : Prop where
  mode : l.mode = .between ∨ ∃ n, l.mode = .number .afterZero n ∨ l.mode = .number .inWhole n
  built : l.settle.built = b

theorem Stands.ends (h : l.Stands b) : l.Ends b where
  mode := .inl h.mode
  built := by
    rw [settle, h.mode]
    exact h.built

theorem Ends.stands (h : l.Ends b) : l.settle.Stands b where
  mode := by
    obtain ⟨mode, found, here, began⟩ := l
    obtain rfl | ⟨n, rfl | rfl⟩ := h.mode <;> rfl
  built := h.built

/-- A sign ends a number. -/
theorem Ends.step_eq (h : l.Ends b) {c : Char} {token : Token} (known : sign? c = some token) :
    l.step c = l.settle.step c := by
  obtain ⟨mode, found, here, began⟩ := l
  obtain rfl | ⟨n, rfl | rfl⟩ := h.mode
  · rfl
  all_goals
    unfold sign? at known
    split at known <;> first | rfl | cases known

theorem Ends.sign (h : l.Ends b) {c : Char} {token : Token} (known : sign? c = some token) :
    ∃ place, (l.step c).Stands (b.step ⟨token, place⟩) := by
  rw [h.step_eq known]
  exact h.stands.sign known

theorem Ends.finish (h : l.Ends b) : l.finish.built = b := by
  rw [← h.built]
  obtain ⟨mode, found, here, began⟩ := l
  obtain rfl | ⟨n, rfl | rfl⟩ := h.mode <;> rfl

/-! ### Numbers -/

structure Numbers (l : Lexer) (b : Builder) (phase : NumberPhase) (n : Numeral) : Prop where
  mode : l.mode = .number phase n
  built : l.built = b

theorem Numbers.digits (h : l.Numbers b .inWhole n) {ds : List Char}
    (digits : ∀ d ∈ ds, isDigit d = true) :
    (l.run ds).Numbers b .inWhole { n with whole := n.whole ++ ds } := by
  induction ds generalizing l n with
  | nil =>
    rw [List.append_nil]
    exact h
  | cons d ds ih =>
    have first := digits d List.mem_cons_self
    have next : (l.step d).Numbers b .inWhole { n with whole := n.whole ++ [d] } := by
      rw [step, h.mode]
      simp only [stepNumber, first, if_true]
      exact ⟨rfl, h.built⟩
    have rest := ih next fun d there => digits d (List.mem_cons_of_mem _ there)
    rw [run_cons]
    simpa using rest

/-- A digit that is not zero begins a whole number. -/
theorem Stands.digit (h : l.Stands b) {c : Char} (digit : isDigit c = true) (leads : c ≠ '0') :
    (l.step c).Numbers b .inWhole ⟨false, [c], none, none⟩ := by
  have other (d : Char) (none : isDigit d = false) : c ≠ d := by
    rintro rfl
    rw [none] at digit
    cases digit
  have visible : ¬ isSpace c = true := by
    simp [isSpace, other ' ' (by decide), other '\n' (by decide), other '\t' (by decide),
      other '\r' (by decide)]
  rw [h.step_eq]
  dsimp only [stepBetween]
  rw [if_neg visible]
  split
  case h_12 => exact absurd rfl leads
  case h_13 =>
    rw [if_pos digit]
    exact ⟨rfl, h.built⟩
  all_goals exact absurd rfl (other _ (by decide))

theorem Numbers.ends {phase : NumberPhase} (h : l.Numbers b phase n)
    (whole : phase = .afterZero ∨ phase = .inWhole) :
    ∃ fault place, l.Ends (b.step ⟨.number n fault, place⟩) := by
  obtain ⟨mode, found, here, began⟩ := l
  obtain ⟨rfl, rfl⟩ := h
  refine ⟨_, _, .inr ⟨n, ?_⟩, built_emit ..⟩
  rcases whole with rfl | rfl
  · exact .inl rfl
  · exact .inr rfl

/-- The digits of a number, after the sign if there is one. -/
theorem Stands.decimal (h : l.Stands b) (m : Nat) :
    ∃ fault place, (l.run (Nat.toDigits 10 m)).Ends
      (b.step ⟨.number ⟨false, Nat.toDigits 10 m, none, none⟩ fault, place⟩) := by
  by_cases zero : m = 0
  · subst zero
    have first : (l.step '0').Numbers b .afterZero ⟨false, ['0'], none, none⟩ := by
      rw [h.step_eq]
      exact ⟨rfl, h.built⟩
    exact first.ends (.inl rfl)
  · obtain ⟨c, cs, same, leads⟩ := toDigits_cons (Nat.pos_of_ne_zero zero)
    have digits (d : Char) (there : d ∈ c :: cs) : isDigit d = true :=
      isDigit_of_mem_toDigits (same ▸ there)
    have first := h.digit (digits c List.mem_cons_self) leads
    have all := first.digits fun d there => digits d (List.mem_cons_of_mem _ there)
    rw [same]
    exact all.ends (.inr rfl)

theorem Stands.negative (h : l.Stands b) {m : Nat} (positive : 0 < m) :
    ∃ fault place, (l.run ('-' :: Nat.toDigits 10 m)).Ends
      (b.step ⟨.number ⟨true, Nat.toDigits 10 m, none, none⟩ fault, place⟩) := by
  obtain ⟨c, cs, same, leads⟩ := toDigits_cons positive
  have digits (d : Char) (there : d ∈ c :: cs) : isDigit d = true :=
    isDigit_of_mem_toDigits (same ▸ there)
  have sign : (l.step '-').Numbers b .afterMinus ⟨true, [], none, none⟩ := by
    rw [h.step_eq]
    exact ⟨rfl, h.built⟩
  have first : ((l.step '-').step c).Numbers b .inWhole ⟨true, [c], none, none⟩ := by
    rw [step, sign.mode]
    simp only [stepNumber, if_neg leads, digits c List.mem_cons_self, if_true]
    exact ⟨rfl, sign.built⟩
  have all := first.digits fun d there => digits d (List.mem_cons_of_mem _ there)
  rw [same]
  exact all.ends (.inr rfl)

end Lexer

end ConnectorSync.Json
