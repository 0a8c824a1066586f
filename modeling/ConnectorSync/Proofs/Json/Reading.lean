import Mathlib.Algebra.Group.Nat.Defs
import ConnectorSync.Json.Decode
import ConnectorSync.Proofs.Json.Lexing

/-!
# Written values are read back

The draft of a written value is the value, with nothing broken off and nothing after it. The value
must have no doubles, no integers beyond sixty-four bits, and its containers must not be nested too
deep for the reader.
-/

namespace ConnectorSync.Json

open Text

/-- A value of integers and texts that is nested at most so deep. -/
inductive Value.Plain : Nat → Value → Prop
  | null {room : Nat} : Plain room .null
  | bool {room : Nat} (b : Bool) : Plain room (.bool b)
  | int {room : Nat} {i : Int} (low : -(2 ^ 63 : Nat) ≤ i) (high : i < (2 ^ 64 : Nat)) :
    Plain room (.int i)
  | string {room : Nat} (s : String) : Plain room (.string s)
  | array {room : Nat} {items : List Value} (each : ∀ v ∈ items, Plain room v) :
    Plain (room + 1) (.array items)
  | object {room : Nat} {members : List (String × Value)} (each : ∀ m ∈ members, Plain room m.2) :
    Plain (room + 1) (.object members)

namespace Value.Plain

variable {room : Nat} {α : Type} {encode : α → Value}

theorem nat {n : Nat} (small : n < 2 ^ 64) : Plain room (.nat n) :=
  .int (by omega) (Int.ofNat_lt.2 small)

theorem nat32 {n : Nat} (small : n < 2 ^ 32) : Plain room (.nat n) :=
  .nat (Nat.lt_trans small (by decide))

theorem word32 (w : UInt32) : Plain room (.nat w.toNat) := .nat32 w.toNat_lt

theorem word64 (w : UInt64) : Plain room (.nat w.toNat) := .nat w.toNat_lt

theorem orNull {o : Option α} (each : ∀ a, o = some a → Plain room (encode a)) :
    Plain room (.orNull (o.map encode)) := by
  cases o with
  | none => exact .null
  | some a => exact each a rfl

theorem ofList (each : ∀ a, Plain room (encode a)) (items : List α) :
    Plain (room + 1) (.ofList encode items) := by
  refine .array fun v there => ?_
  obtain ⟨a, -, rfl⟩ := List.mem_map.1 there
  exact each a

theorem ofMap (each : ∀ a, Plain room (encode a)) (m : StringMap α) :
    Plain (room + 1) (.ofMap encode m) := by
  refine .object fun v there => ?_
  obtain ⟨e, -, rfl⟩ := List.mem_map.1 there
  exact each e.2

theorem present {members : List (String × Option Value)}
    (each : ∀ m ∈ members, ∀ v, m.2 = some v → Plain room v) :
    Plain (room + 1) (.present members) := by
  refine .object fun m there => ?_
  obtain ⟨⟨key, v⟩, inside, same⟩ := List.mem_filterMap.1 there
  obtain ⟨w, found, rfl⟩ := Option.map_eq_some_iff.1 same
  exact each _ inside w found

theorem optionalText {t : Option String} {v : Value} (there : t.map .string = some v) :
    Plain room v := by
  obtain ⟨s, -, rfl⟩ := Option.map_eq_some_iff.1 there
  exact .string s

end Value.Plain

namespace Builder

/-! ### The builder between values -/

def Awaits (b : Builder) (stack : List Frame) : Prop :=
  ∀ token mark, (token = .closeBracket → False) →
    b.step ⟨token, mark⟩ = beginValue stack ⟨token, mark⟩

theorem awaits_value (stack : List Frame) (afterComma : Bool) :
    (⟨stack, .value afterComma⟩ : Builder).Awaits stack := by
  intro token mark other
  unfold step
  dsimp only
  split
  · exact (other rfl).elim
  · rfl

theorem awaits_firstItem (stack : List Frame) :
    (⟨stack, .firstItem⟩ : Builder).Awaits (.array [] :: stack) := by
  intro token mark other
  unfold step
  dsimp only
  split
  · exact (other rfl).elim
  · rfl

theorem sink_of_length_lt {outer : List Frame} (room : outer.length < depthLimit) (mark : Mark)
    (d : Draft) : sink outer mark d = d := by
  have shallow : isShallow outer = true := by
    rw [isShallow, List.isEmpty_iff, List.drop_eq_nil_iff]
    exact Nat.le_sub_one_of_lt room
  rw [sink, if_pos shallow]

end Builder

/-! ### Numbers -/

theorem value?_natural {m : Nat} (small : m < 2 ^ 64) :
    (⟨false, Nat.toDigits 10 m, none, none⟩ : Numeral).value? = some (.integer m) := by
  have fits : m ≤ Numeral.largest := Nat.le_sub_one_of_lt small
  simp [Numeral.value?, fits]

theorem value?_negative {m : Nat} (positive : 0 < m) (small : m ≤ 2 ^ 63) :
    (⟨true, Nat.toDigits 10 m, none, none⟩ : Numeral).value? = some (.integer (-m)) := by
  have fits : m ≤ Nat.pow 2 63 := small
  simp [Numeral.value?, positive, fits]

/-! ### Values -/

namespace Value

open Builder

/-- Wherever a value is awaited, with enough room left, the written value is read as the value. -/
def Reads (room : Nat) (v : Value) : Prop :=
  ∀ ⦃l : Lexer⦄ ⦃b : Builder⦄ ⦃stack : List Frame⦄, l.Stands b → b.Awaits stack →
    stack.length + room ≤ depthLimit → (l.run v.write).Ends (place stack (.ofValue v))

theorem reads_null (room : Nat) : Reads room .null := by
  intro l b stack stands awaits _
  obtain ⟨mark, read⟩ := stands.null
  rw [awaits .null mark nofun] at read
  exact read.ends

theorem reads_bool (room : Nat) (x : Bool) : Reads room (.bool x) := by
  intro l b stack stands awaits _
  obtain ⟨mark, read⟩ := stands.bool x
  rw [awaits (.bool x) mark nofun] at read
  exact read.ends

theorem reads_string (room : Nat) (s : String) : Reads room (.string s) := by
  intro l b stack stands awaits _
  obtain ⟨mark, read⟩ := stands.quote s
  rw [awaits (.string (.ok s)) mark nofun] at read
  exact read.ends

theorem reads_int (room : Nat) {i : Int} (low : -(2 ^ 63 : Nat) ≤ i) (high : i < (2 ^ 64 : Nat)) :
    Reads room (.int i) := by
  intro l b stack stands awaits _
  by_cases negative : i < 0
  · have positive : 0 < i.natAbs := by omega
    have small : i.natAbs ≤ 2 ^ 63 := by omega
    have value : -(i.natAbs : Int) = i := by omega
    obtain ⟨fault, mark, read⟩ := stands.negative positive
    rw [awaits (.number _ fault) mark nofun] at read
    simp only [beginValue, value?_negative positive small, value, Option.elim_some] at read
    have written : (Value.int i).write = '-' :: Nat.toDigits 10 i.natAbs := by
      simp [Value.int, Value.write, writeNumber, decimalInt, negative, decimal]
    rw [written]
    exact read
  · have small : i.natAbs < 2 ^ 64 := by omega
    have value : (i.natAbs : Int) = i := by omega
    obtain ⟨fault, mark, read⟩ := stands.decimal i.natAbs
    rw [awaits (.number _ fault) mark nofun] at read
    simp only [beginValue, value?_natural small, value, Option.elim_some] at read
    have written : (Value.int i).write = Nat.toDigits 10 i.natAbs := by
      simp [Value.int, Value.write, writeNumber, decimalInt, negative, decimal]
    rw [written]
    exact read

section Containers

variable {room : Nat} {l : Lexer} {b : Builder} {stack : List Frame}

/-- A container that is closed where there is room for it has become a value. -/
theorem ends_closed (ends : l.Ends b) {c : Char} (token : Token)
    (known : Lexer.sign? c = some token) {d : Draft}
    (closes : ∀ mark, b.step ⟨token, mark⟩ = place stack (sink stack mark d))
    (room : stack.length < depthLimit) : (l.step c).Ends (place stack d) := by
  obtain ⟨mark, closed⟩ := ends.sign known
  rw [closes, sink_of_length_lt room] at closed
  exact closed.ends

theorem ends_items {items : List Value} (each : ∀ v ∈ items, Reads room v) {done : List Draft}
    (ends : l.Ends ⟨.array done :: stack, .itemEnd⟩)
    (deep : stack.length + (room + 1) ≤ depthLimit) :
    (l.run (writeItems items)).Ends
      (place stack (.array (done.reverse ++ Draft.ofItems items) none)) := by
  -- Over the items left, while those already read pile up in the innermost frame.
  induction items generalizing l done with
  | nil =>
    rw [writeItems, Draft.ofItems, List.append_nil]
    exact ends_closed ends .closeBracket rfl (fun _ => rfl) (by omega)
  | cons v rest ih =>
    obtain ⟨mark, separated⟩ := ends.sign (c := ',') rfl
    have next : Builder.step ⟨.array done :: stack, .itemEnd⟩ ⟨.comma, mark⟩ =
        ⟨.array done :: stack, .value true⟩ := rfl
    rw [next] at separated
    have read : ((l.step ',').run v.write).Ends ⟨.array (.ofValue v :: done) :: stack, .itemEnd⟩ :=
      each v List.mem_cons_self separated (awaits_value _ _)
        (by rw [List.length_cons]; omega)
    have others := ih (fun w there => each w (List.mem_cons_of_mem _ there)) read
    rw [writeItems, List.cons_append, Lexer.run_cons, Lexer.run_append, Draft.ofItems]
    simpa using others

theorem reads_array {items : List Value} (each : ∀ v ∈ items, Reads room v) :
    Reads (room + 1) (.array items) := by
  intro l b stack stands awaits deep
  obtain ⟨mark, opened⟩ := stands.sign (c := '[') rfl
  rw [awaits .openBracket mark nofun] at opened
  have opened : (l.step '[').Stands ⟨stack, .firstItem⟩ := opened
  cases items with
  | nil => exact ends_closed opened.ends .closeBracket rfl (fun _ => rfl) (by omega)
  | cons v rest =>
    have read : ((l.step '[').run v.write).Ends ⟨.array [.ofValue v] :: stack, .itemEnd⟩ :=
      each v List.mem_cons_self opened (awaits_firstItem _)
        (by rw [List.length_cons]; omega)
    have others := ends_items (fun w there => each w (List.mem_cons_of_mem _ there)) read deep
    rw [write, List.cons_append, Lexer.run_cons, Lexer.run_append]
    exact others

/-- A member is read once its key is awaited and known. -/
theorem ends_member (key : String) {v : Value} (reads : Reads room v)
    {done : List (Except Fault String × Draft)} (stands : l.Stands b)
    (awaits : ∀ mark, b.step ⟨.string (.ok key), mark⟩ = ⟨.object done (.ok key) :: stack, .colon⟩)
    (deep : stack.length + (room + 1) ≤ depthLimit) :
    (l.run (quote key ++ ':' :: v.write)).Ends
      ⟨.object ((.ok key, .ofValue v) :: done) (.ok key) :: stack, .memberEnd⟩ := by
  obtain ⟨mark, named⟩ := stands.quote key
  rw [awaits] at named
  obtain ⟨mark, assigned⟩ := named.sign (c := ':') rfl
  have next : Builder.step ⟨.object done (.ok key) :: stack, .colon⟩ ⟨.colon, mark⟩ =
      ⟨.object done (.ok key) :: stack, .value false⟩ := rfl
  rw [next] at assigned
  rw [Lexer.run_append, Lexer.run_cons]
  exact reads assigned (awaits_value _ _) (by rw [List.length_cons]; omega)

theorem ends_members {members : List (String × Value)} (each : ∀ m ∈ members, Reads room m.2)
    {done : List (Except Fault String × Draft)} {key : Except Fault String}
    (ends : l.Ends ⟨.object done key :: stack, .memberEnd⟩)
    (deep : stack.length + (room + 1) ≤ depthLimit) :
    (l.run (writeMembers members)).Ends
      (place stack (.object (done.reverse ++ Draft.ofMembers members) none)) := by
  induction members generalizing l done key with
  | nil =>
    rw [writeMembers, Draft.ofMembers, List.append_nil]
    exact ends_closed ends .closeBrace rfl (fun _ => rfl) (by omega)
  | cons m rest ih =>
    obtain ⟨name, v⟩ := m
    obtain ⟨mark, separated⟩ := ends.sign (c := ',') rfl
    have next : Builder.step ⟨.object done key :: stack, .memberEnd⟩ ⟨.comma, mark⟩ =
        ⟨stack, .keyAfterComma done⟩ := rfl
    rw [next] at separated
    have member := ends_member name (each _ List.mem_cons_self) separated (fun _ => rfl) deep
    have others := ih (fun w there => each w (List.mem_cons_of_mem _ there)) member
    rw [writeMembers, Draft.ofMembers]
    simpa using others

theorem reads_object {members : List (String × Value)} (each : ∀ m ∈ members, Reads room m.2) :
    Reads (room + 1) (.object members) := by
  intro l b stack stands awaits deep
  obtain ⟨mark, opened⟩ := stands.sign (c := '\x7b') rfl
  rw [awaits .openBrace mark nofun] at opened
  have opened : (l.step '\x7b').Stands ⟨stack, .firstKey []⟩ := opened
  cases members with
  | nil => exact ends_closed opened.ends .closeBrace rfl (fun _ => rfl) (by omega)
  | cons m rest =>
    obtain ⟨name, v⟩ := m
    have member := ends_member name (each _ List.mem_cons_self) opened (fun _ => rfl) deep
    have others := ends_members (fun w there => each w (List.mem_cons_of_mem _ there)) member deep
    rw [write, Draft.ofValue, Draft.ofMembers]
    simpa using others

end Containers

theorem Plain.reads {room : Nat} {v : Value} (plain : Plain room v) : Reads room v := by
  induction plain with
  | null => exact reads_null _
  | bool b => exact reads_bool _ b
  | int low high => exact reads_int _ low high
  | string s => exact reads_string _ s
  | array _ each => exact reads_array each
  | object _ each => exact reads_object each

end Value

theorem Document.read_render {v : Value} (plain : v.Plain 127) :
    Document.read v.render = ⟨.ofValue v, none⟩ := by
  have begun : ({} : Lexer).Stands {} := ⟨rfl, rfl⟩
  have ends := plain.reads begun (Builder.awaits_value _ _) (Nat.le_refl _)
  have found := ends.finish
  have text : v.render.toList = v.write := String.toList_ofList
  unfold Document.read lexemes
  rw [text]
  exact congrArg (Builder.finish · _) found

theorem read_render {α : Type} {decoder : Decoder α} {v : Value} {a : α} (plain : v.Plain 127)
    (decodes : decoder (.ofValue v) = .ok a) : read decoder v.render = .ok a := by
  rw [read, Document.read_render plain, decodes]
  rfl

end ConnectorSync.Json
