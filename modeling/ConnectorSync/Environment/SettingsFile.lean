import ConnectorSync.Environment
import ConnectorSync.Text.Alphanumeric
import ConnectorSync.Text.Blank

/-!
# Settings files

A file of settings has a statement `NAME=value` on each line. A value may be quoted, which lets it
run over several lines; outside strong quotes a dollar sign stands for the value of a variable, and a
backslash takes the next character as it is. A setting counts only where the environment has no
variable of its name, and nothing counts from the first statement on that cannot be read. A value
that no variable can have leaves no environment at all.
-/

namespace ConnectorSync.SettingsFile

open Text

/-! ### Statements -/

/-- What the characters of a statement have led to. -/
inductive Scan
  | plain
  | blank
  | escape
  | weak
  | weakEscape
  | strong
  | strongEscape
  | comment
  deriving DecidableEq

def Scan.step : Scan → Char → Scan
  | blank, c =>
    if c = '#' then comment else if c = '\\' then escape else if c = '"' then weak
    else if c = '\'' then strong else plain
  | plain, c =>
    if c = '\n' || c = '\x0d' then plain else if isBlank c then blank
    else if c = '\\' then escape else if c = '"' then weak else if c = '\'' then strong else plain
  | escape, _ => plain
  | weak, c => if c = '\\' then weakEscape else if c = '"' then plain else weak
  | weakEscape, _ => weak
  | strong, c => if c = '\\' then strongEscape else if c = '\'' then plain else strong
  | strongEscape, _ => strong
  | comment, _ => comment

/-- The characters of a line before a comment, and what all of them lead to. -/
def scanLine : Scan → List Char → List Char × Scan
  | scan, [] => ([], scan)
  | scan, c :: cs =>
    match scan.step c with
    | .comment => ([], .comment)
    | scan =>
      let (kept, final) := scanLine scan cs
      (c :: kept, final)

/-- The line without the newline at its end, and the carriage return before that. -/
def withoutEnd (line : List Char) : List Char :=
  match line.reverse with
  | '\n' :: '\x0d' :: rest => rest.reverse
  | '\n' :: rest => rest.reverse
  | _ => line

/-- The statements of lines that still have their ends; `none` for one that the file breaks off. -/
def statements : Scan → List Char → List (List Char) → List (Option (List Char))
  | .plain, _, [] => []
  | _, _, [] => [none]
  | scan, before, line :: rest =>
    let all := before ++ line
    if (trimStart all).head? = some '#' then some [] :: statements .plain [] rest
    else match scanLine scan line with
      | (kept, .comment) => some (before ++ kept) :: statements .plain [] rest
      | (_, .plain) => some (withoutEnd all) :: statements .plain [] rest
      | (_, scan) => statements scan all rest

/-! ### Names and values -/

def isNameChar (c : Char) : Bool := c.isAlphanum || c = '_' || c = '.'

def name? : List Char → Option (String × List Char)
  | [] => none
  | c :: cs =>
    if c.isAlpha || c = '_' then
      some (String.ofList (c :: cs.takeWhile isNameChar), cs.dropWhile isNameChar)
    else none

/-- What the characters of a value have led to. Within weak quotes an escape or the name of a
variable leads back to them. A variable's name without braces is a run of letters and numbers of any
script. -/
inductive Reading
  | plain
  | weak
  | strong
  | escaped (inWeak : Bool)
  /-- After the value, where only blanks and a comment may follow. -/
  | ended
  | comment
  | variable (inWeak : Bool) (name : List Char)
  | braced (inWeak : Bool) (name : List Char)

/-- The text around an escape or a variable. -/
def Reading.around (inWeak : Bool) : Reading := if inWeak then weak else plain

/-- The value of a variable, which is empty if there is none. -/
def valueOf (env : Environment) (reversedName : List Char) : List Char :=
  ((env.get? (String.ofList reversedName.reverse)).getD "").toList

def escapable : List Char := ['\\', '\'', '"', '$', ' ']

/-- One character more of a value, and what it adds to it. -/
def Reading.step (env : Environment) : Reading → Char → Option (Reading × List Char)
  | ended, c =>
    if c = ' ' || c = '\t' then some (ended, []) else if c = '#' then some (comment, []) else none
  | comment, _ => some (comment, [])
  | escaped inWeak, c =>
    if escapable.contains c then some (around inWeak, [c])
    else if c = 'n' then some (around inWeak, ['\n']) else none
  | strong, c => if c = '\'' then some (plain, []) else some (strong, [c])
  | «variable» inWeak name, c =>
    if isAlphanumeric c then some («variable» inWeak (c :: name), [])
    else if c = '\x7b' && name.isEmpty then some (braced inWeak [], [])
    else if c = '$' then some («variable» inWeak [], valueOf env name)
    else some (around inWeak, valueOf env name ++ [c])
  | braced inWeak name, c =>
    if c = '\x7d' then some (around inWeak, valueOf env name)
    else some (braced inWeak (c :: name), [])
  | weak, c =>
    if c = '$' then some («variable» true [], []) else if c = '"' then some (plain, [])
    else if c = '\\' then some (escaped true, []) else some (weak, [c])
  | plain, c =>
    if c = '$' then some («variable» false [], []) else if c = '\'' then some (strong, [])
    else if c = '"' then some (weak, []) else if c = '\\' then some (escaped false, [])
    else if c = ' ' || c = '\t' then some (ended, []) else some (plain, [c])

/-- What the end of the line adds to a value, if the value may end there. -/
def Reading.finish (env : Environment) : Reading → Option (List Char)
  | plain | ended | comment | escaped false => some []
  | «variable» false name => some (valueOf env name)
  | _ => none

def readValue (env : Environment) : Reading → List Char → Option (List Char)
  | reading, [] => reading.finish env
  | reading, c :: cs => do
    let (reading, added) ← reading.step env c
    let rest ← readValue env reading cs
    return added ++ rest

/-- The setting after its name: an equals sign and a value, which may be missing. -/
def settingOf? (env : Environment) (name : String) (rest : List Char) : Option (String × String) :=
  match trimStart rest with
  | '=' :: rest =>
    let value := trimStart rest
    if value.isEmpty || value.head? = some '#' then some (name, "")
    else (readValue env .plain value).map fun cs => (name, String.ofList cs)
  | _ => none

/-- The setting of a statement: none in one that is blank or a comment. A statement may begin with
the word `export`. -/
def setting? (env : Environment) (statement : List Char) : Option (Option (String × String)) := do
  let cs := trimStart (trimEnd statement)
  if cs.isEmpty || cs.head? = some '#' then return none
  let (name, rest) ← name? cs
  if name = "export" && (trimStart rest).head? ≠ some '=' then
    let (name, rest) ← name? (trimStart rest)
    return some (← settingOf? env name rest)
  else return some (← settingOf? env name rest)

/-! ### Files -/

/-- The environment with the settings of statements, up to one that cannot be read. It breaks down
over a value with a NUL in it, which no variable can have. -/
def settle (env : Environment) : List (Option (List Char)) → Option Environment
  | [] | none :: _ => some env
  | some statement :: rest =>
    match setting? env statement with
    | none => some env
    | some none => settle env rest
    | some (some (name, value)) =>
      if (env.get? name).isSome then settle env rest
      else if value.toList.contains '\x00' then none
      else settle ⟨env.values.insert name (bytes value)⟩ rest

def byteLines (bs : Bytes) : List Bytes :=
  let (line, lines) := bs.foldl (fun (line, lines) b =>
    if b = 10 then (([] : Bytes), (b :: line).reverse :: lines) else (b :: line, lines))
    (([] : Bytes), ([] : List Bytes))
  (if line.isEmpty then lines else line.reverse :: lines).reverse

/-- The lines up to the first that is not text. A mark of the byte order before the first line is
left out. -/
def textLines (bs : Bytes) : List (List Char) :=
  let lines := ((byteLines bs).map ofBytes?).takeWhile Option.isSome
  match lines.filterMap (·.map String.toList) with
  | ('\ufeff' :: first) :: rest => first :: rest
  | lines => lines

end SettingsFile

/-- The environment with the settings of a file, unless one of them cannot be made. -/
def Environment.withSettings (env : Environment) (file : Bytes) : Option Environment :=
  SettingsFile.settle env (SettingsFile.statements .plain [] (SettingsFile.textLines file))

end ConnectorSync
