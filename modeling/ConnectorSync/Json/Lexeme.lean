import ConnectorSync.Json.Fault
import ConnectorSync.Json.Number

/-!
# Lexemes of a JSON text

`Lexer.step` takes one character and `lexemes` folds it over a text, so that the lexemes of a text
are those of a first part followed by what the rest adds. The lexer stops at the first thing that
cannot be read; it goes on after an escape that names no character, because a text that is only
skipped may hold one.
-/

namespace ConnectorSync.Json

open Text

/-- A lexeme that could be read, or the fault of one that could not. -/
inductive Token
  | openBrace
  | closeBrace
  | openBracket
  | closeBracket
  | comma
  | colon
  | null
  | bool (b : Bool)
  | number (n : Numeral) (fault : Fault)
  /-- A string with its characters, or with the fault that makes it unusable. -/
  | string (content : Except Fault String)
  | brokenString (fault : Break)
  /-- A word or number that is broken off, or a character that starts nothing. -/
  | broken (fault : Break)

/-- A token with the place just inside its first character. -/
structure Lexeme where
  token : Token
  peeked : Mark

/-- What may come next in a number. -/
inductive NumberPhase
  | afterMinus
  | afterZero
  | inWhole
  | afterPoint
  | inFraction
  | afterE
  | afterSign
  | inExponent
  deriving DecidableEq

/-- The characters of a string so far, last first, or the fault that makes them unusable. -/
abbrev Content := Except Fault (List Char)

namespace Content

def push (content : Content) (c : Char) : Content :=
  content.map (c :: ·)

/-- The characters made unusable, unless they already are. -/
def spoil (content : Content) (cause : Cause) (place : Mark) : Content :=
  content.bind fun _ => .error ⟨cause, some place⟩

def fault? : Content → Option Fault
  | .error f => some f
  | .ok _ => none

end Content

/-- What the lexer is in the middle of. -/
inductive Mode
  | between
  | word (rest : List Char) (token : Token)
  | number (phase : NumberPhase) (n : Numeral)
  | string (content : Content) (high : Option Nat)
  | escape (content : Content) (high : Option Nat)
  | hex (digits : List Char) (content : Content) (high : Option Nat)
  | stopped

/-- The state of the lexer: the lexemes so far, last first. -/
structure Lexer where
  mode : Mode := .between
  found : List Lexeme := []
  here : Mark := .start
  began : Mark := .start

namespace Lexer

def isSpace (c : Char) : Bool :=
  c = ' ' || c = '\n' || c = '\t' || c = '\r'

def emit (l : Lexer) (token : Token) : Lexer :=
  { l with mode := .between, found := ⟨token, l.began⟩ :: l.found }

def stopAt (l : Lexer) (token : Token) : Lexer :=
  { l with mode := .stopped, found := ⟨token, l.began⟩ :: l.found }

/-- The lexer stopped in a word or number, or by a character that starts nothing. Its first character
alone tells that it is none of the names of a choice. -/
def stop (l : Lexer) (reading skipping : Cause) (place : Mark) : Lexer :=
  l.stopAt <| .broken
    { reading := ⟨reading, some place⟩
      skipping := ⟨skipping, some place⟩
      choosing := ⟨.expectedValue, some l.began⟩ }

/-- The lexer stopped in a string. A fault in its characters comes first for those who want them. -/
def stopString (l : Lexer) (cause : Cause) (place : Mark) (content : Content) : Lexer :=
  let fault : Fault := ⟨cause, some place⟩
  let wanted := content.fault?.getD fault
  l.stopAt (.brokenString { reading := wanted, skipping := fault, choosing := wanted })

def stepBetween (l : Lexer) (c : Char) : Lexer :=
  let next := l.here.after c
  let l := { l with began := l.here.into c }
  let past := { l with here := next }
  if isSpace c then past
  else match c with
  | '\x7b' => past.emit .openBrace
  | '\x7d' => past.emit .closeBrace
  | '[' => past.emit .openBracket
  | ']' => past.emit .closeBracket
  | ',' => past.emit .comma
  | ':' => past.emit .colon
  | '"' => { past with mode := .string (.ok []) none }
  | 'n' => { past with mode := .word ['u', 'l', 'l'] .null }
  | 't' => { past with mode := .word ['r', 'u', 'e'] (.bool true) }
  | 'f' => { past with mode := .word ['a', 'l', 's', 'e'] (.bool false) }
  | '-' => { past with mode := .number .afterMinus ⟨true, [], none, none⟩ }
  | '0' => { past with mode := .number .afterZero ⟨false, ['0'], none, none⟩ }
  | c =>
    if isDigit c then { past with mode := .number .inWhole ⟨false, [c], none, none⟩ }
    else l.stop .expectedValue .expectedValue l.began

/-- The number read so far, ended by a character that is not part of it. -/
def endNumber (l : Lexer) (n : Numeral) : Lexer :=
  l.emit (.number n ⟨.numberOutOfRange, some l.here⟩)

def stepNumber (l : Lexer) (phase : NumberPhase) (n : Numeral) (c : Char) : Lexer :=
  let next := { l with here := l.here.after c }
  let exponent (positive : Bool) := { n with exponent := some (!positive, []) }
  let withExponent (c : Char) :=
    { n with exponent := n.exponent.map fun (sign, ds) => (sign, ds ++ [c]) }
  let fraction := { n with fraction := some [] }
  let withFraction (c : Char) := { n with fraction := n.fraction.map (· ++ [c]) }
  let isE := c = 'e' || c = 'E'
  let finish := (l.endNumber n).stepBetween c
  match phase with
  | .afterMinus =>
    if c = '0' then { next with mode := .number .afterZero { n with whole := [c] } }
    else if isDigit c then { next with mode := .number .inWhole { n with whole := [c] } }
    else l.stop .invalidNumber .invalidNumber next.here
  | .afterZero =>
    if isDigit c then l.stop .invalidNumber .invalidNumber (l.here.into c)
    else if c = '.' then { next with mode := .number .afterPoint fraction }
    else if isE then { next with mode := .number .afterE (exponent true) }
    else finish
  | .inWhole =>
    if isDigit c then { next with mode := .number .inWhole { n with whole := n.whole ++ [c] } }
    else if c = '.' then { next with mode := .number .afterPoint fraction }
    else if isE then { next with mode := .number .afterE (exponent true) }
    else finish
  | .afterPoint =>
    if isDigit c then { next with mode := .number .inFraction (withFraction c) }
    else l.stop .invalidNumber .invalidNumber (l.here.into c)
  | .inFraction =>
    if isDigit c then { next with mode := .number .inFraction (withFraction c) }
    else if isE then { next with mode := .number .afterE (exponent true) }
    else finish
  | .afterE =>
    if c = '+' then { next with mode := .number .afterSign n }
    else if c = '-' then { next with mode := .number .afterSign (exponent false) }
    else if isDigit c then { next with mode := .number .inExponent (withExponent c) }
    else l.stop .invalidNumber .invalidNumber next.here
  | .afterSign =>
    if isDigit c then { next with mode := .number .inExponent (withExponent c) }
    else l.stop .invalidNumber .invalidNumber next.here
  | .inExponent =>
    if isDigit c then { next with mode := .number .inExponent (withExponent c) }
    else finish

/-- A character in a string. `high` is a leading surrogate that waits for its other half. -/
def stepString (l : Lexer) (content : Content) (high : Option Nat) (c : Char) : Lexer :=
  let next := { l with here := l.here.after c }
  if c = '\\' then { next with mode := .escape content high }
  else
    let content := if high.isSome then Content.spoil content .unexpectedEndOfHexEscape next.here else content
    if c = '"' then next.emit (.string (content.map fun cs => String.ofList cs.reverse))
    else if c.toNat < 0x20 then l.stopString .controlCharacter next.here content
    else { next with mode := .string (Content.push content c) none }

def escaped? : Char → Option Char
  | '"' => some '"'
  | '\\' => some '\\'
  | '/' => some '/'
  | 'b' => some '\x08'
  | 'f' => some '\x0c'
  | 'n' => some '\n'
  | 'r' => some '\r'
  | 't' => some '\t'
  | _ => none

def stepEscape (l : Lexer) (content : Content) (high : Option Nat) (c : Char) : Lexer :=
  let next := { l with here := l.here.after c }
  if c = 'u' then { next with mode := .hex [] content high }
  else
    let content := if high.isSome then Content.spoil content .unexpectedEndOfHexEscape next.here else content
    match escaped? c with
    | some d => { next with mode := .string (Content.push content d) none }
    | none => l.stopString .invalidEscape next.here content

def hexValue? (c : Char) : Option Nat :=
  let n := c.toNat
  if 48 ≤ n ∧ n ≤ 57 then some (n - 48)
  else if 97 ≤ n ∧ n ≤ 102 then some (n - 87)
  else if 65 ≤ n ∧ n ≤ 70 then some (n - 55)
  else none

def ofHex? (cs : List Char) : Option Nat :=
  cs.foldlM (fun n c => (hexValue? c).map (n * 16 + ·)) 0

/-- The string after the four digits of an escape: a character, the first half of a pair, or the
second half of one. -/
def afterHex (content : Content) (high : Option Nat) (n : Nat) (here : Mark) :
    Content × Option Nat :=
  match high with
  | some h =>
    if 0xDC00 ≤ n ∧ n ≤ 0xDFFF then
      (Content.push content (Char.ofNat ((h - 0xD800) * 0x400 + (n - 0xDC00) + 0x10000)), none)
    else (Content.spoil content .loneLeadingSurrogate here, none)
  | none =>
    if 0xDC00 ≤ n ∧ n ≤ 0xDFFF then (Content.spoil content .loneLeadingSurrogate here, none)
    else if 0xD800 ≤ n ∧ n ≤ 0xDBFF then (content, some n)
    else (Content.push content (Char.ofNat n), none)

/-- A character in the digits of an escape. They are looked at once four bytes are there. -/
def stepHex (l : Lexer) (digits : List Char) (content : Content) (high : Option Nat) (c : Char) :
    Lexer :=
  let next := { l with here := l.here.after c }
  let digits := digits ++ [c]
  if digits.foldl (fun n c => n + c.utf8Size) 0 < 4 then { next with mode := .hex digits content high }
  else match ofHex? digits with
  | some n =>
    let (content, high) := afterHex content high n next.here
    { next with mode := .string content high }
  | none => l.stopString .invalidEscape next.here content

def stepWord (l : Lexer) (rest : List Char) (token : Token) (c : Char) : Lexer :=
  let next := { l with here := l.here.after c }
  match rest with
  | [] => l.stop .expectedIdentifier .expectedIdentifier next.here
  | expected :: rest =>
    if c ≠ expected then l.stop .expectedIdentifier .expectedIdentifier next.here
    else if rest.isEmpty then next.emit token
    else { next with mode := .word rest token }

def step (l : Lexer) (c : Char) : Lexer :=
  match l.mode with
  | .between => l.stepBetween c
  | .word rest token => l.stepWord rest token c
  | .number phase n => l.stepNumber phase n c
  | .string content high => l.stepString content high c
  | .escape content high => l.stepEscape content high c
  | .hex digits content high => l.stepHex digits content high c
  | .stopped => l

def finish (l : Lexer) : Lexer :=
  match l.mode with
  | .between | .stopped => l
  | .word .. => l.stop .endInValue .endInValue l.here
  | .number phase n =>
    if phase ∈ [.afterZero, .inWhole, .inFraction, .inExponent] then l.endNumber n
    else l.stop .endInValue .invalidNumber l.here
  | .string content _ | .escape content _ | .hex _ content _ =>
    l.stopString .endInString l.here content

end Lexer

/-- The lexemes of a text and the place where it ends. -/
def lexemes (text : String) : List Lexeme × Mark :=
  let l := (text.toList.foldl Lexer.step {}).finish
  (l.found.reverse, l.here)

end ConnectorSync.Json
