import ConnectorSync.Text.ShellWord

/-!
# How a shell reads

A reader of shell text, by the rules of POSIX: blanks and newlines separate words, operators end
them, and quoting takes from a character its meaning for the shell. What is read is a list of words,
each with the characters that are its own and those that the shell would expand.
-/

namespace ConnectorSync.Text.Shell

/-! ### The reader -/

inductive Piece
  | plain (c : Char)
  | active (c : Char)
  deriving DecidableEq, Repr

inductive Token
  | word (pieces : List Piece)
  | operator (c : Char)
  deriving DecidableEq, Repr

inductive Mode
  | bare
  | escaped
  | single
  | double
  | doubleEscaped
  | comment
  deriving DecidableEq, Repr

def isBlank (c : Char) : Bool := c ∈ [' ', '\t']

/-- Whether an unquoted character is an operator, or the beginning of one. A newline is taken for an
operator that ends a command. -/
def isOperator (c : Char) : Bool := c ∈ ['\n', ';', '&', '|', '<', '>', '(', ')']

/-- Whether an unquoted character may stand for something else: a parameter, a command's output, a
pattern, a home directory, an assignment, a brace. -/
def isActive (c : Char) : Bool :=
  c ∈ ['$', '\x60', '*', '?', '[', ']', '^', '!', '#', '~', '=', '%', '\x7b', ',', '\x7d']

/-- The characters that have a meaning between double quotes, besides the backslash. -/
def isActiveInDouble (c : Char) : Bool := c ∈ ['$', '\x60']

structure Reader where
  tokens : List Token := []
  word : Option (List Piece) := none
  mode : Mode := .bare
  deriving DecidableEq, Repr

namespace Reader

def put (r : Reader) (p : Piece) : Reader := { r with word := some (r.word.getD [] ++ [p]) }

/-- A quotation belongs to a word even if nothing stands in it. -/
def quote (r : Reader) (mode : Mode) : Reader := { r with word := some (r.word.getD []), mode }

def finish (r : Reader) : Reader :=
  match r.word with
  | none => r
  | some pieces => { r with tokens := r.tokens ++ [.word pieces], word := none }

def operate (r : Reader) (c : Char) : Reader :=
  { r.finish with tokens := r.finish.tokens ++ [.operator c] }

def stepBare (r : Reader) (c : Char) : Reader :=
  if c = '\'' then r.quote .single
  else if c = '\"' then r.quote .double
  else if c = '\\' then { r with mode := .escaped }
  else if isBlank c then r.finish
  else if isOperator c then r.operate c
  else if c = '#' ∧ r.word = none then { r with mode := .comment }
  else r.put (if isActive c then .active c else .plain c)

def step (r : Reader) (c : Char) : Reader :=
  match r.mode with
  | .bare => r.stepBare c
  | .escaped =>
    if c = '\n' then { r with mode := .bare } else { r.put (.plain c) with mode := .bare }
  | .single => if c = '\'' then { r with mode := .bare } else r.put (.plain c)
  | .double =>
    if c = '\"' then { r with mode := .bare }
    else if c = '\\' then { r with mode := .doubleEscaped }
    else r.put (if isActiveInDouble c then .active c else .plain c)
  | .doubleEscaped =>
    let r := { r with mode := .double }
    if c = '\n' then r
    else if isActiveInDouble c ∨ c = '\"' ∨ c = '\\' then r.put (.plain c)
    else (r.put (.plain '\\')).put (.plain c)
  | .comment => if c = '\n' then { r with mode := .bare }.operate c else r

/-- Reads a text up to its end, which a NUL character is for a shell. -/
def read (r : Reader) (text : String) : Reader :=
  (text.toList.takeWhile (· ≠ '\x00')).foldl step r

/-- A reader that has read all of its tokens to their end. -/
def ready (tokens : List Token) : Reader := { tokens }

end Reader

/-- The tokens of a text, if all quotations in it are closed. -/
def tokens? (text : String) : Option (List Token) :=
  let r := ({} : Reader).read text
  if r.mode = .bare ∨ r.mode = .comment then some r.finish.tokens else none

def Piece.char? : Piece → Option Char
  | .plain c => some c
  | .active _ => none

/-- The text of a word that the shell takes as it is. -/
def Token.text? : Token → Option String
  | .word pieces => (pieces.mapM Piece.char?).map String.ofList
  | .operator _ => none

/-- The positional parameters that a command sets, if it is a simple command that sets them and the
shell expands nothing in it. -/
def parameters? (tokens : List Token) : Option (List String) := do
  match ← tokens.mapM Token.text? with
  | "set" :: "--" :: args => some args
  | _ => none

/-! ### Words that stand for themselves -/

def literal (text : String) : Token := .word (text.toList.map .plain)

/-- The command that makes texts the positional parameters. -/
def setCommand (args : List String) : List Token := ("set" :: "--" :: args).map literal

@[simp] theorem text?_literal (text : String) : (literal text).text? = some text := by
  have pieces (cs : List Char) : (cs.map Piece.plain).mapM Piece.char? = some cs := by
    induction cs with
    | nil => rfl
    | cons c cs ih => simp [ih, Piece.char?]
  simp [literal, Token.text?, pieces]

theorem texts?_literals (texts : List String) :
    (texts.map literal).mapM Token.text? = some texts := by
  induction texts with
  | nil => rfl
  | cons text texts ih => simp [ih]

theorem parameters?_setCommand (args : List String) : parameters? (setCommand args) = some args := by
  simp only [parameters?, setCommand, texts?_literals]
  rfl

example : (tokens? "set -- a\\ b \"c d\"'$e' # f").bind parameters? = some ["a b", "c d$e"] ∧
    (tokens? "set -- \"$c\"").bind parameters? = none := by decide

/-! ### Reading quoted words -/

/-- Whether nothing in a text is taken for its end. -/
def Clean (text : String) : Prop := '\x00' ∉ text.toList

instance (text : String) : Decidable (Clean text) := inferInstanceAs (Decidable (_ ∉ _))

theorem clean_append {text rest : String} : Clean (text ++ rest) ↔ Clean text ∧ Clean rest := by
  simp [Clean, not_or]

theorem clean_shellWord {arg : String} (clean : Clean arg) : Clean (shellWord arg) := by
  intro there
  simp only [shellWord, String.toList_ofList, List.cons_append, List.mem_cons, List.mem_append,
    List.mem_flatMap] at there
  obtain there | ⟨c, inside, there⟩ | there := there
  · exact absurd there (by decide)
  · unfold quoteShellChar at there
    split at there
    · exact absurd there (by decide)
    · exact clean (List.mem_singleton.1 there ▸ inside)
  · exact absurd there (by decide)

theorem clean_words {args : List String} (clean : ∀ arg ∈ args, Clean arg) :
    Clean (String.intercalate " " (args.map shellWord)) := by
  induction args with
  | nil => exact nofun
  | cons arg rest ih =>
    have first := clean_shellWord (clean arg List.mem_cons_self)
    cases rest with
    | nil => simpa using first
    | cons next rest =>
      have others := ih fun other there => clean other (List.mem_cons_of_mem _ there)
      rw [List.map_cons, List.map_cons, String.intercalate_cons_cons, clean_append, clean_append]
      exact ⟨⟨first, by decide⟩, others⟩

namespace Reader

theorem takeWhile_clean {text : String} (clean : Clean text) (cs : List Char) :
    (text.toList ++ cs).takeWhile (· ≠ '\x00') = text.toList ++ cs.takeWhile (· ≠ '\x00') :=
  List.takeWhile_append_of_pos fun _ there => decide_eq_true fun same => clean (same ▸ there)

theorem read_of_clean {text : String} (clean : Clean text) (r : Reader) :
    r.read text = text.toList.foldl step r := by
  have whole := takeWhile_clean clean []
  rw [List.append_nil, List.takeWhile_nil, List.append_nil] at whole
  rw [read, whole]

theorem read_append {text : String} (clean : Clean text) (r : Reader) (rest : String) :
    r.read (text ++ rest) = (r.read text).read rest := by
  rw [read_of_clean clean, read, String.toList_append, takeWhile_clean clean, List.foldl_append, read]

@[simp] theorem mode_finish (r : Reader) : r.finish.mode = r.mode := by
  unfold finish
  split <;> rfl

theorem mode_of_finish {r : Reader} {tokens : List Token} (ended : r.finish = ready tokens) :
    r.mode = .bare := by
  rw [← mode_finish, ended]
  rfl

/-- Between single quotes each character of the argument comes out as it is; the quotes in it leave
the quotation for the time of one escaped character. -/
theorem foldl_quoted (tokens : List Token) (pieces : List Piece) (cs : List Char) :
    (cs.flatMap quoteShellChar).foldl step ⟨tokens, some pieces, .single⟩ =
      ⟨tokens, some (pieces ++ cs.map .plain), .single⟩ := by
  induction cs generalizing pieces with
  | nil => simp
  | cons c cs ih =>
    have taken : (quoteShellChar c).foldl step ⟨tokens, some pieces, .single⟩ =
        ⟨tokens, some (pieces ++ [.plain c]), .single⟩ := by
      unfold quoteShellChar
      split
      · next same =>
        subst same
        rfl
      · next different => simp [step, different, put]
    rw [List.flatMap_cons, List.foldl_append, taken, ih]
    simp

theorem read_shellWord {arg : String} (clean : Clean arg) (tokens : List Token) :
    (ready tokens).read (shellWord arg) = ⟨tokens, some (arg.toList.map .plain), .bare⟩ := by
  have opened : (ready tokens).step '\'' = ⟨tokens, some [], .single⟩ := rfl
  rw [read_of_clean (clean_shellWord clean), shellWord, String.toList_ofList, List.cons_append,
    List.foldl_cons, opened, List.foldl_append, foldl_quoted]
  rfl

theorem step_bare {r : Reader} (bare : r.mode = .bare) (c : Char) : r.step c = r.stepBare c := by
  rw [step, bare]

theorem read_blank {r : Reader} {tokens : List Token} (ended : r.finish = ready tokens) :
    r.read " " = ready tokens := by
  calc
    r.read " " = r.step ' ' := rfl
    _ = r.finish := step_bare (mode_of_finish ended) ' '
    _ = ready tokens := ended

theorem read_newline {r : Reader} {tokens : List Token} (ended : r.finish = ready tokens) :
    r.read "\n" = ready (tokens ++ [.operator '\n']) := by
  calc
    r.read "\n" = r.step '\n' := rfl
    _ = r.operate '\n' := step_bare (mode_of_finish ended) '\n'
    _ = ready (tokens ++ [.operator '\n']) := by
      rw [operate, ended]
      rfl

/-- Words that are quoted one by one are read one by one. -/
theorem finish_words {args : List String} (clean : ∀ arg ∈ args, Clean arg) (tokens : List Token) :
    ((ready tokens).read (String.intercalate " " (args.map shellWord))).finish =
      ready (tokens ++ args.map literal) := by
  -- A blank after a word makes a token of it, so the words left are read after more tokens.
  induction args generalizing tokens with
  | nil => simp [read, finish, ready]
  | cons arg rest ih =>
    have first := read_shellWord (clean arg List.mem_cons_self) tokens
    have ended : ((ready tokens).read (shellWord arg)).finish = ready (tokens ++ [literal arg]) := by
      rw [first]
      rfl
    cases rest with
    | nil => simpa using ended
    | cons next rest =>
      have others := ih (fun other there => clean other (List.mem_cons_of_mem _ there))
        (tokens ++ [literal arg])
      have word := clean_shellWord (clean arg List.mem_cons_self)
      rw [List.map_cons, List.map_cons, String.intercalate_cons_cons,
        read_append (clean_append.2 ⟨word, by decide⟩), read_append word, read_blank ended,
        ← List.map_cons, others, List.append_assoc]
      rfl

end Reader

end ConnectorSync.Text.Shell
