import ConnectorSync.Json.Basic
import ConnectorSync.Json.Lexeme

/-!
# Drafts

A draft is what a text holds as far as it can be read: a JSON value in which something may be broken
off. A reader that walks a draft from left to right meets the first fault of the text, be it one of
the text or one of shape, and skips parts it has no use for without looking at their values. At a
break each kind of reader meets its own fault.
`Draft.read` builds the draft of a text by folding over its lexemes with a stack of open containers.
-/

namespace ConnectorSync.Json

/-- A value that may be broken off. -/
inductive Draft
  | null
  | bool (b : Bool)
  | number (content : Except Fault Number)
  | string (content : Except Fault String)
  | array (items : List Draft) (cut : Option Break)
  | object (members : List (Except Fault String × Draft)) (cut : Option Break)
  /-- A container nested too deep for its value to be read; it can still be skipped. -/
  | sunken (container : Draft) (fault : Fault)
  | broken (fault : Break)

/-- A text: its value and the fault of what follows it. -/
structure Document where
  root : Draft
  trailing : Option Fault

/-- A container that is still open, its parts last first. -/
inductive Frame
  | array (items : List Draft)
  | object (members : List (Except Fault String × Draft)) (key : Except Fault String)

inductive Expect
  /-- A value: at the top, as a member's value, or after a comma in an array. -/
  | value (afterComma : Bool)
  | firstItem
  | itemEnd
  | firstKey (members : List (Except Fault String × Draft))
  | keyAfterComma (members : List (Except Fault String × Draft))
  | colon
  | memberEnd
  /-- Nothing: the value is complete, possibly broken off. -/
  | nothing (root : Draft) (trailing : Option Fault)

/-- The containers that are open, innermost first, and what comes next. An object that has no key
yet is not on the stack: its members are with the expectation. -/
structure Builder where
  stack : List Frame := []
  expect : Expect := .value false

namespace Builder

def depthLimit : Nat := 127

def isShallow (outer : List Frame) : Bool := (outer.drop (depthLimit - 1)).isEmpty

/-- A container that was closed, or broken off, with the containers around it. -/
def sink (outer : List Frame) (place : Mark) (d : Draft) : Draft :=
  if isShallow outer then d else .sunken d ⟨.nestedTooDeep, some place⟩

def place (stack : List Frame) (d : Draft) : Builder :=
  match stack with
  | [] => ⟨[], .nothing d none⟩
  | .array items :: rest => ⟨.array (d :: items) :: rest, .itemEnd⟩
  | .object members key :: rest => ⟨.object ((key, d) :: members) key :: rest, .memberEnd⟩

def collapse (mark : Mark) : List Frame → Draft → Draft
  | [], d => d
  | .array items :: rest, d => collapse mark rest (sink rest mark (.array (d :: items).reverse none))
  | .object members key :: rest, d =>
    collapse mark rest (sink rest mark (.object ((key, d) :: members).reverse none))

/-- The value broken off at the given part of the innermost container. -/
def breakOff (mark : Mark) (stack : List Frame) (d : Draft) : Builder :=
  ⟨[], .nothing (collapse mark stack d) none⟩

/-- The builder stopped by a fault noticed where a value or a part of one was expected. After a comma
a reader that chooses among names has met its fault already, since it wants no second member. -/
def fail (b : Builder) (fault : Break) : Builder :=
  let mark := fault.reading.place.getD .start
  match b.expect, b.stack with
  | .firstItem, stack =>
    breakOff mark stack (sink stack mark (.array [] (some fault)))
  | .firstKey members, stack =>
    breakOff mark stack (sink stack mark (.object members.reverse (some fault)))
  | .keyAfterComma members, stack =>
    let fault := { fault with choosing := ⟨.expectedValue, some mark⟩ }
    breakOff mark stack (sink stack mark (.object members.reverse (some fault)))
  | .itemEnd, .array items :: rest =>
    breakOff mark rest (sink rest mark (.array items.reverse (some fault)))
  | .memberEnd, .object members _ :: rest =>
    breakOff mark rest (sink rest mark (.object members.reverse (some fault)))
  | .nothing root _, _ => ⟨[], .nothing root (some fault.reading)⟩
  | _, stack => breakOff mark stack (.broken fault)

/-- The builder stopped by a fault that is the same for every reader. -/
def failWith (b : Builder) (cause : Cause) (place : Mark) : Builder :=
  b.fail (.ofFault ⟨cause, some place⟩)

def beginValue (stack : List Frame) (x : Lexeme) : Builder :=
  let b : Builder := ⟨stack, .value false⟩
  match x.token with
  | .null => place stack .null
  | .bool b => place stack (.bool b)
  | .number n tooLarge => place stack (.number (n.value?.elim (.error tooLarge) .ok))
  | .string content => place stack (.string content)
  | .openBracket => ⟨stack, .firstItem⟩
  | .openBrace => ⟨stack, .firstKey []⟩
  | .brokenString fault | .broken fault => b.fail fault
  | _ => b.failWith .expectedValue x.peeked

def step (b : Builder) (x : Lexeme) : Builder :=
  let wrong (cause : Cause) := b.failWith cause x.peeked
  let key (content : Except Fault String) (members : List (Except Fault String × Draft)) : Builder :=
    ⟨.object members content :: b.stack, .colon⟩
  match b.expect with
  | .value afterComma =>
    match x.token, b.stack with
    | .closeBracket, .array items :: rest =>
      if afterComma then
        breakOff x.peeked rest
          (sink rest x.peeked
            (.array items.reverse (some (.ofFault ⟨.trailingComma, some x.peeked⟩))))
      else beginValue b.stack x
    | _, _ => beginValue b.stack x
  | .firstItem =>
    match x.token with
    | .closeBracket => place b.stack (sink b.stack x.peeked (.array [] none))
    | _ => beginValue (.array [] :: b.stack) x
  | .itemEnd =>
    match x.token, b.stack with
    | .comma, stack => ⟨stack, .value true⟩
    | .closeBracket, .array items :: rest =>
      place rest (sink rest x.peeked (.array items.reverse none))
    | _, _ => wrong .expectedListCommaOrEnd
  | .firstKey members =>
    match x.token with
    | .closeBrace => place b.stack (sink b.stack x.peeked (.object [] none))
    | .string content => key content members
    | .brokenString fault => b.fail fault
    | _ => wrong .keyMustBeString
  | .keyAfterComma members =>
    match x.token with
    | .closeBrace => wrong .trailingComma
    | .string content => key content members
    | .brokenString fault => b.fail fault
    | _ => wrong .keyMustBeString
  | .colon =>
    match x.token with
    | .colon => ⟨b.stack, .value false⟩
    | _ => wrong .expectedColon
  | .memberEnd =>
    match x.token, b.stack with
    | .comma, .object members _ :: rest => ⟨rest, .keyAfterComma members⟩
    | .closeBrace, .object members _ :: rest =>
      place rest (sink rest x.peeked (.object members.reverse none))
    | _, _ => wrong .expectedObjectCommaOrEnd
  | .nothing root none => ⟨[], .nothing root (some ⟨.trailingCharacters, some x.peeked⟩)⟩
  | .nothing _ (some _) => b

def finish (b : Builder) (here : Mark) : Document :=
  let cause : Cause := match b.expect with
    | .firstItem | .itemEnd => .endInList
    | .firstKey _ | .colon | .memberEnd => .endInObject
    | .value _ | .keyAfterComma _ | .nothing .. => .endInValue
  match b.expect with
  | .nothing root trailing => ⟨root, trailing⟩
  | _ =>
    match (b.failWith cause here).expect with
    | .nothing root trailing => ⟨root, trailing⟩
    | _ => ⟨.null, none⟩

end Builder

def Document.read (text : String) : Document :=
  let (ls, here) := lexemes text
  (ls.foldl Builder.step {}).finish here

/-! ### Skipping -/

mutual

/-- The first fault met by a reader that skips the value. -/
def Draft.skip : Draft → Except Fault Unit
  | .array items cut => do
    Draft.skipAll items
    Draft.orFault (cut.map (·.skipping))
  | .object members cut => do
    Draft.skipMembers members
    Draft.orFault (cut.map (·.skipping))
  | .sunken d _ => d.skip
  | .broken fault => .error fault.skipping
  | _ => .ok ()

/-- The first fault met when skipping the items of an array. -/
def Draft.skipAll : List Draft → Except Fault Unit
  | [] => .ok ()
  | d :: ds => do
    d.skip
    Draft.skipAll ds

/-- The first fault met when skipping the members of an object. -/
def Draft.skipMembers : List (Except Fault String × Draft) → Except Fault Unit
  | [] => .ok ()
  | (_, d) :: ms => do
    d.skip
    Draft.skipMembers ms

def Draft.orFault : Option Fault → Except Fault Unit
  | some f => .error f
  | none => .ok ()

end

/-! ### Values -/

mutual

def Draft.value : Draft → Except Fault Value
  | .null => .ok .null
  | .bool b => .ok (.bool b)
  | .number content => content.map .number
  | .string content => content.map .string
  | .array items cut => do
    let vs ← Draft.values items
    Draft.orFault (cut.map (·.reading))
    return .array vs
  | .object members cut => do
    let ms ← Draft.valueMembers members
    Draft.orFault (cut.map (·.reading))
    return .object (sortMembers ms)
  | .sunken _ fault => .error fault
  | .broken fault => .error fault.reading

def Draft.values : List Draft → Except Fault (List Value)
  | [] => .ok []
  | d :: ds => do
    let v ← d.value
    let vs ← Draft.values ds
    return v :: vs

def Draft.valueMembers :
    List (Except Fault String × Draft) → Except Fault (List (String × Value))
  | [] => .ok []
  | (key, d) :: ms => do
    let k ← key
    let v ← d.value
    let rest ← Draft.valueMembers ms
    return (k, v) :: rest

end

/-! ### Whole drafts -/

mutual

/-- The draft of a value, in which nothing is broken off. -/
def Draft.ofValue : Value → Draft
  | .null => .null
  | .bool b => .bool b
  | .number n => .number (.ok n)
  | .string s => .string (.ok s)
  | .array items => .array (Draft.ofItems items) none
  | .object members => .object (Draft.ofMembers members) none

def Draft.ofItems : List Value → List Draft
  | [] => []
  | v :: vs => Draft.ofValue v :: Draft.ofItems vs

def Draft.ofMembers : List (String × Value) → List (Except Fault String × Draft)
  | [] => []
  | (k, v) :: ms => (.ok k, Draft.ofValue v) :: Draft.ofMembers ms

end

end ConnectorSync.Json
