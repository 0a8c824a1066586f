import ConnectorSync.Docker.Command
import ConnectorSync.Proofs.Launch.Quantity
import Mathlib.Data.List.Forall2
import Mathlib.Tactic.NormNum

/-!
# The amounts in the options of a container

A descriptor's amounts are written with the units of a cluster, the options of the container runtime
with its own. An option sets the amount that was asked for if the amount is a plain number, of
memory also with a unit that both notations have; most other amounts are not taken over.
-/

namespace ConnectorSync.Docker

open Text Launch Decimal

/-! ### The amounts that the runtime reads -/

/-- A plain decimal number: digits with at most one point, and not the point alone. -/
def plain? (cs : List Char) : Option ℚ :=
  let n := numeral cs
  if n.isEmpty = false ∧ n.rest = [] then some (n.mantissa / 10 ^ n.fraction.length) else none

/-- The letters that may end an amount of memory, with the power of 1024 that they stand for. -/
def powers : List (Char × Nat) :=
  [('b', 0), ('B', 0), ('k', 1), ('K', 1), ('m', 2), ('M', 2), ('g', 3), ('G', 3)]

def memory? (cs : List Char) : Option ℚ :=
  match cs.getLast?.bind (List.lookup · powers) with
  | some k => (plain? cs.dropLast).map (· * 1024 ^ k)
  | none => plain? cs

inductive Setting
  | processors
  | memory
  | reservedMemory
  deriving DecidableEq, Repr

namespace Setting

def flag : Setting → String
  | processors => "--cpus="
  | memory => "--memory="
  | reservedMemory => "--memory-reservation="

def read? : Setting → List Char → Option ℚ
  | processors => plain?
  | memory | reservedMemory => memory?

end Setting

/-- The option is accepted, and it sets this amount. -/
def Sets (option : String) (setting : Setting) (amount : ℚ) : Prop :=
  ∃ text : String, option = setting.flag ++ text ∧ setting.read? text.toList = some amount

/-- What a descriptor asks for, setting by setting. -/
def asked (r : Resources) : List (Setting × String) :=
  (r.cpuLimit.map (.processors, ·)).toList ++ (r.memoryLimit.map (.memory, ·)).toList ++
    (r.memoryRequest.map (.reservedMemory, ·)).toList

/-- Each option is accepted and sets the amount that is asked for. -/
def KeepsAmounts (r : Resources) : Prop :=
  List.Forall₂
    (fun option (setting, quantity) =>
      ∃ amount, amount? quantity = some amount ∧ Sets option setting amount)
    (resourceOptions r) (asked r)

/-! ### Plain numbers -/

variable {number letters cs : List Char} {v : ℚ} {s : String}

def isPlain (c : Char) : Bool := isDigit c || c == '.'

theorem plain?_eq_some :
    plain? number = some v ↔ (numeral number).isEmpty = false ∧ (numeral number).rest = [] ∧
      (numeral number).mantissa / 10 ^ (numeral number).fraction.length = v := by
  unfold plain?
  dsimp only
  rw [Option.ite_none_right_eq_some, Option.some_inj, and_assoc]

theorem isPlain_of_plain? (plain : plain? number = some v) : ∀ c ∈ number, isPlain c := by
  obtain ⟨-, complete, -⟩ := plain?_eq_some.1 plain
  obtain ⟨⟨digits, decimals⟩, ⟨same, -⟩ | same⟩ := eq_of_numeral complete
  · intro c mem
    rw [same] at mem
    simp [isPlain, digits c mem]
  · intro c mem
    rw [same, List.mem_append, List.mem_cons] at mem
    obtain whole | rfl | fraction := mem
    · simp [isPlain, digits c whole]
    · rfl
    · simp [isPlain, decimals c fraction]

theorem cons_of_plain? (plain : plain? number = some v) :
    ∃ c more, number = c :: more ∧ isPlain c := by
  have digits := isPlain_of_plain? plain
  cases number with
  | nil => cases (plain?_eq_some.1 plain).1
  | cons c more => exact ⟨c, more, rfl, digits c List.mem_cons_self⟩

/-- What follows a plain number does not change how the number is read. -/
theorem numeral_append (plain : plain? number = some v) (letters : List Char)
    (stops : ∀ c ∈ letters.head?, isPlain c = false) :
    numeral (number ++ letters) = ⟨(numeral number).whole, (numeral number).fraction, letters⟩ := by
  have stopsBoth : ∀ c ∈ letters.head?, isDigit c = false ∧ c ≠ '.' := by
    intro c first
    simpa [isPlain] using stops c first
  obtain ⟨-, complete, -⟩ := plain?_eq_some.1 plain
  obtain ⟨⟨digits, decimals⟩, ⟨same, bare⟩ | same⟩ := eq_of_numeral complete
  · rw [bare, ← numeral_whole digits stopsBoth, ← same]
  · rw [← numeral_point digits decimals fun c first => (stopsBoth c first).1, ← List.cons_append,
      ← List.append_assoc, ← same]

theorem sign_append (plain : plain? number = some v) (letters : List Char) :
    sign (number ++ letters) = (false, number ++ letters) := by
  obtain ⟨c, more, rfl, digit⟩ := cons_of_plain? plain
  unfold sign
  split
  · next same =>
    cases (List.cons.inj same).1
    cases digit
  · next same =>
    cases (List.cons.inj same).1
    cases digit
  · rfl

/-- A plain number writes the same amount in the other notation. -/
theorem written?_of_plain? (plain : plain? number = some v) :
    ∃ w, written? number = some w ∧ w.value = v := by
  obtain ⟨some, complete, value⟩ := plain?_eq_some.1 plain
  have signed := sign_append plain []
  rw [List.append_nil] at signed
  refine ⟨⟨false, (numeral number).mantissa, -(numeral number).fraction.length⟩, ?_, ?_⟩
  · unfold written? Numeral.scientific?
    rw [signed, some, complete]
    rfl
  · rw [← value, Written.value, if_neg Bool.false_ne_true, zpow_neg, zpow_natCast, div_eq_mul_inv]

theorem written?_append (plain : plain? number = some v) {c : Char} (ends : isPlain c = false)
    (noExponent : ¬(c = 'e' ∨ c = 'E')) (more : List Char) :
    written? (number ++ c :: more) = none := by
  have stops : ∀ d ∈ (c :: more).head?, isPlain d = false := by
    rintro d ⟨⟩
    exact ends
  unfold written?
  rw [sign_append plain, numeral_append plain _ stops, Numeral.scientific?]
  dsimp only
  rw [if_neg noExponent, ite_self]
  rfl

/-! ### Units after a number -/

/-- A unit made of letters stands at the end of a number with letters if and only if it stands at
the end of the letters. -/
theorem isSuffixOf_append {unit : List Char} (plain : ∀ c ∈ number, isPlain c)
    (named : unit.any isPlain = false) :
    unit.isSuffixOf (number ++ letters) = unit.isSuffixOf letters := by
  rw [Bool.eq_iff_iff, List.isSuffixOf_iff_suffix, List.isSuffixOf_iff_suffix]
  refine ⟨fun ends => ?_, List.suffix_append_of_suffix⟩
  have lettersEnd : letters <:+ number ++ letters := List.suffix_append ..
  by_cases short : unit.length ≤ letters.length
  · exact List.suffix_of_suffix_length_le ends lettersEnd short
  · -- The unit would begin within the number.
    obtain ⟨start, rfl⟩ := List.suffix_of_suffix_length_le lettersEnd ends (by omega)
    obtain ⟨front, same⟩ := ends
    rw [← List.append_assoc] at same
    have within : front ++ start = number := List.append_cancel_right same
    cases start with
    | nil => exact absurd (Nat.le_refl _) short
    | cons c start =>
      have digit := plain c (within ▸ by simp)
      exact absurd digit (List.any_eq_false.1 named c (by simp))

theorem ending?_append {α : Type} {endings : List (List Char × α)}
    (plain : ∀ c ∈ number, isPlain c) (named : ∀ e ∈ endings, e.1.any isPlain = false) :
    ending? endings (number ++ letters) = ending? endings letters := by
  unfold ending?
  induction endings with
  | nil => rfl
  | cons e rest ih =>
    rw [List.find?_cons, List.find?_cons, isSuffixOf_append plain (named e List.mem_cons_self),
      ih fun e mem => named e (List.mem_cons_of_mem _ mem)]

theorem unitOf_append (plain : ∀ c ∈ number, isPlain c) :
    unitOf (number ++ letters) = unitOf letters := by
  unfold unitOf
  rw [ending?_append plain (by decide)]

/-! ### Texts without blanks -/

theorem trim_eq (visible : ∀ c ∈ s.toList, isBlank c = false) : trim s = s := by
  have kept (cs : List Char) (visible : ∀ c ∈ cs, isBlank c = false) :
      cs.dropWhile isBlank = cs := by
    cases cs with
    | nil => rfl
    | cons c more => exact List.dropWhile_cons_of_neg (by simp [visible c List.mem_cons_self])
  unfold trim trimEnd trimStart
  rw [kept _ visible, kept _ fun c mem => visible c (List.mem_reverse.1 mem), List.reverse_reverse,
    String.ofList_toList]

theorem isBlank_of_isPlain {c : Char} (plain : isPlain c) : isBlank c = false := by
  unfold isPlain at plain
  rw [Bool.or_eq_true, beq_iff_eq] at plain
  obtain digit | rfl := plain
  · rw [isDigit, Bool.and_eq_true, decide_eq_true_eq, decide_eq_true_eq] at digit
    have low : 48 ≤ c.toNat := digit.1
    have high : c.toNat ≤ 57 := digit.2
    simp only [isBlank, Bool.or_eq_false_iff, Bool.and_eq_false_iff, decide_eq_false_iff_not,
      beq_eq_false_iff_ne]
    omega
  · rfl

theorem trim_append (plain : plain? number = some v) (same : s.toList = number ++ letters)
    (visible : ∀ c ∈ letters, isBlank c = false) : trim s = s := by
  apply trim_eq
  rw [same]
  intro c mem
  obtain inNumber | inLetters := List.mem_append.1 mem
  · exact isBlank_of_isPlain (isPlain_of_plain? plain c inNumber)
  · exact visible c inLetters

/-! ### What both notations make of a text -/

/-- A plain number with a unit that is known to the cluster, or with none. -/
theorem amount?_of_plain? (plain : plain? number = some v) (same : s.toList = number ++ letters)
    (visible : ∀ c ∈ letters, isBlank c = false) (known : (unitOf letters).1 = letters) :
    amount? s = some (v * (unitOf letters).2) := by
  obtain ⟨w, written, value⟩ := written?_of_plain? plain
  unfold amount? numberOf
  rw [trim_append plain same visible, same, unitOf_append (isPlain_of_plain? plain), known,
    before_append, written, Option.map_some, value]

/-- A letter after a plain number that is neither a unit nor the start of an exponent. -/
theorem amount?_of_unknown {c : Char} (plain : plain? number = some v)
    (same : s.toList = number ++ [c]) (visible : isBlank c = false) (ends : isPlain c = false)
    (noExponent : ¬(c = 'e' ∨ c = 'E')) (unknown : unitOf [c] = ([], 1)) : amount? s = none := by
  have allVisible : ∀ d ∈ [c], isBlank d = false := by
    intro d mem
    rwa [List.mem_singleton.1 mem]
  unfold amount? numberOf
  rw [trim_append plain same allVisible, same, unitOf_append (isPlain_of_plain? plain), unknown,
    before_nil, written?_append plain ends noExponent, Option.map_none]

theorem memory?_concat {c : Char} {k : Nat} (power : List.lookup c powers = some k) :
    memory? (number ++ [c]) = (plain? number).map (· * 1024 ^ k) := by
  unfold memory?
  rw [List.getLast?_concat, Option.bind_some, power, List.dropLast_concat]

theorem memory?_of_plain? (plain : plain? number = some v) : memory? number = some v := by
  have noPower (c : Char) (digit : isPlain c) : List.lookup c powers = none := by
    rw [List.lookup_eq_none_iff]
    have letters : ∀ e ∈ powers, isPlain e.1 = false := by decide
    intro e mem
    rw [bne_iff_ne]
    rintro rfl
    rw [letters e mem] at digit
    cases digit
  unfold memory?
  cases last : number.getLast? with
  | none => exact plain
  | some c =>
    have digit := isPlain_of_plain? plain c (List.mem_of_getLast? last)
    rw [Option.bind_some, noPower c digit]
    exact plain

theorem memory?_cases (read : memory? cs = some v) :
    plain? cs = some v ∨
      ∃ number c k x, cs = number ++ [c] ∧ (c, k) ∈ powers ∧ plain? number = some x ∧
        v = x * 1024 ^ k := by
  obtain rfl | ⟨number, c, rfl⟩ := cs.eq_nil_or_concat'
  · exact .inl read
  · cases power : List.lookup c powers with
    | none =>
      unfold memory? at read
      rw [List.getLast?_concat, Option.bind_some, power] at read
      exact .inl read
    | some k =>
      rw [memory?_concat power] at read
      obtain ⟨x, plain, rfl⟩ := Option.map_eq_some_iff.1 read
      obtain ⟨front, back, same, -⟩ := List.lookup_eq_some_iff.1 power
      exact .inr ⟨number, c, k, x, rfl, same ▸ by simp, plain, rfl⟩

/-! ### Portable amounts -/

/-- The units of memory that have a letter of their own in the options. -/
def binary : List (List Char × Char) :=
  [("Ki".toList, 'k'), ("Mi".toList, 'm'), ("Gi".toList, 'g')]

theorem toList_memoryAmount (s : String) :
    (memoryAmount s).toList =
      match ending? binary s.toList with
      | some (unit, letter) => before s.toList unit ++ [letter]
      | none => s.toList := by
  have renamed : memoryAmount s =
      ((binary.findSome? fun (unit, letter) => (withoutEnding? unit s.toList).map fun number =>
        String.ofList (number ++ [letter])).getD s) := rfl
  have found := findSome?_withoutEnding binary s.toList fun number letter =>
    String.ofList (number ++ [letter])
  rw [renamed, found]
  cases ending? binary s.toList with
  | none => rfl
  | some e => exact String.toList_ofList

/-- An amount of memory that both notations read alike. -/
inductive IsPortable : List Char → Prop
  | bare {number : List Char} (plain : (plain? number).isSome) : IsPortable number
  | binary {number unit : List Char} (plain : (plain? number).isSome)
      (known : unit ∈ binary.map Prod.fst) : IsPortable (number ++ unit)
  | nothing {number : List Char} {c : Char} (zero : plain? number = some 0)
      (known : c ∈ ['m', 'k', 'K', 'M', 'G']) : IsPortable (number ++ [c])

/-- No letter that ends an amount of memory means in the cluster what it means to the runtime. -/
theorem powers_differ : ∀ e ∈ powers, isBlank e.1 = false ∧ isPlain e.1 = false ∧
    (¬(e.1 = 'e' ∨ e.1 = 'E') ∧ unitOf [e.1] = ([], 1) ∨
      e.1 ∈ ['m', 'k', 'K', 'M', 'G'] ∧ (unitOf [e.1]).1 = [e.1] ∧
        (unitOf [e.1]).2 ≠ 1024 ^ e.2) := by
  decide +kernel

theorem isPortable_of_same (amount : amount? s = some v)
    (set : memory? (memoryAmount s).toList = some v) : IsPortable s.toList := by
  rw [toList_memoryAmount] at set
  split at set
  · next unit letter found =>
    obtain ⟨known, joined⟩ := ending?_eq_some found
    have powered : ∀ e ∈ binary, (List.lookup e.2 powers).isSome := by decide
    obtain ⟨k, power⟩ := Option.isSome_iff_exists.1 (powered _ known)
    rw [memory?_concat power] at set
    obtain ⟨x, plain, -⟩ := Option.map_eq_some_iff.1 set
    rw [← joined]
    exact .binary (by rw [plain]; rfl) (List.mem_map_of_mem known)
  · obtain plain | ⟨number, c, k, x, same, power, plain, rfl⟩ := memory?_cases set
    · exact .bare (by rw [plain]; rfl)
    · obtain ⟨visible, ends, ⟨noExponent, unknown⟩ | ⟨known, unit, differs⟩⟩ :=
        powers_differ _ power
      · rw [amount?_of_unknown plain same visible ends noExponent unknown] at amount
        cases amount
      · rw [amount?_of_plain? plain same (by simpa using visible) unit, Option.some_inj] at amount
        have zero : x = 0 := (mul_eq_mul_left_iff.1 amount).resolve_left differs
        rw [same]
        exact .nothing (zero ▸ plain) known

theorem binary_agree : ∀ e ∈ binary, e.1.any isBlank = false ∧
    ending? binary e.1 = some e ∧ (unitOf e.1).1 = e.1 ∧
      (List.lookup e.2 powers).map (1024 ^ ·) = some (unitOf e.1).2 := by
  decide +kernel

theorem ending?_binary (plain : plain? number = some v) (letters : List Char) :
    ending? binary (number ++ letters) = ending? binary letters :=
  ending?_append (isPlain_of_plain? plain) (by decide)

theorem same_of_isPortable (portable : IsPortable s.toList) :
    ∃ v, amount? s = some v ∧ memory? (memoryAmount s).toList = some v := by
  rw [toList_memoryAmount]
  generalize same : s.toList = cs at portable ⊢
  cases portable with
  | bare plain =>
    obtain ⟨v, plain⟩ := Option.isSome_iff_exists.1 plain
    rw [← List.append_nil cs] at same
    have amount := amount?_of_plain? plain same nofun rfl
    have kept := ending?_binary plain []
    rw [List.append_nil] at kept
    rw [kept]
    exact ⟨v, amount.trans (congrArg some (mul_one v)), memory?_of_plain? plain⟩
  | @binary number unit plain known =>
    obtain ⟨v, plain⟩ := Option.isSome_iff_exists.1 plain
    obtain ⟨⟨unitLetters, letter⟩, entry, rfl⟩ := List.mem_map.1 known
    obtain ⟨blanks, ending, unit, agree⟩ := binary_agree _ entry
    obtain ⟨k, power, scale⟩ := Option.map_eq_some_iff.1 agree
    have visible (c : Char) (mem : c ∈ unitLetters) : isBlank c = false :=
      Bool.eq_false_iff.2 (List.any_eq_false.1 blanks c mem)
    have amount := amount?_of_plain? plain same visible unit
    rw [ending?_binary plain, ending]
    dsimp only
    rw [before_append, memory?_concat power, plain]
    exact ⟨_, amount, by rw [← scale]; rfl⟩
  | @nothing number c zero known =>
    have agree : ∀ c ∈ ['m', 'k', 'K', 'M', 'G'], isBlank c = false ∧ ending? binary [c] = none ∧
        (unitOf [c]).1 = [c] ∧ (List.lookup c powers).isSome := by
      simp only [List.forall_mem_cons, List.not_mem_nil, false_implies, implies_true, and_true]
      decide
    obtain ⟨visible, ending, unit, power⟩ := agree c known
    obtain ⟨k, power⟩ := Option.isSome_iff_exists.1 power
    have amount := amount?_of_plain? zero same (by simpa using visible) unit
    rw [zero_mul] at amount
    rw [ending?_binary zero, ending]
    dsimp only
    rw [memory?_concat power, zero, Option.map_some, zero_mul]
    exact ⟨0, amount, rfl⟩

theorem same_iff_isPortable :
    (∃ v, amount? s = some v ∧ memory? (memoryAmount s).toList = some v) ↔
      IsPortable s.toList :=
  ⟨fun ⟨_, amount, set⟩ => isPortable_of_same amount set, same_of_isPortable⟩

theorem same_iff_plain? :
    (∃ v, amount? s = some v ∧ plain? s.toList = some v) ↔ (plain? s.toList).isSome := by
  constructor
  · rintro ⟨v, -, plain⟩
    rw [plain]
    rfl
  · intro plain
    obtain ⟨v, plain⟩ := Option.isSome_iff_exists.1 plain
    have amount := amount?_of_plain? plain (List.append_nil _).symm nofun rfl
    exact ⟨v, amount.trans (congrArg some (mul_one v)), plain⟩

/-! ### Options -/

def Setting.written : Setting → String → String
  | .processors, quantity => quantity
  | .memory, quantity | .reservedMemory, quantity => memoryAmount quantity

theorem resourceOptions_eq (r : Resources) :
    resourceOptions r =
      (asked r).map fun (setting, quantity) => setting.flag ++ setting.written quantity := by
  obtain ⟨_, cpu, request, limit⟩ := r
  cases cpu <;> cases limit <;> cases request <;> rfl

theorem sets_flag {setting : Setting} {text : String} :
    Sets (setting.flag ++ text) setting v ↔ setting.read? text.toList = some v := by
  constructor
  · rintro ⟨other, same, read⟩
    have texts := congrArg String.toList same
    rw [String.toList_append, String.toList_append] at texts
    rwa [List.append_cancel_left texts]
  · intro read
    exact ⟨text, rfl, read⟩

theorem keepsAmounts_iff_asked (r : Resources) :
    KeepsAmounts r ↔ ∀ e ∈ asked r,
      ∃ v, amount? e.2 = some v ∧ e.1.read? (e.1.written e.2).toList = some v := by
  unfold KeepsAmounts
  rw [resourceOptions_eq, List.forall₂_map_left_iff, List.forall₂_same]
  simp only [sets_flag]

theorem forall_mem_setting {o : Option String} {setting : Setting} {p : Setting × String → Prop} :
    (∀ e ∈ (o.map (setting, ·)).toList, p e) ↔ ∀ q ∈ o, p (setting, q) := by
  cases o with
  | none => exact ⟨fun _ => nofun, fun _ => nofun⟩
  | some q => simp

/-- The options of a descriptor's resources stand among the arguments, and each is accepted and sets
the exact amount that is asked for if and only if the processor limit is a plain number and the
amounts of memory are portable. -/
theorem amounts_kept_iff (config : Config) (d : Descriptor) (name : String) :
    (∃ front, runArgs config d name = front ++ resourceOptions d.resources ++ d.image :: d.args) ∧
      (KeepsAmounts d.resources ↔
        (∀ q ∈ d.resources.cpuLimit, (plain? q.toList).isSome) ∧
          (∀ q ∈ d.resources.memoryLimit, IsPortable q.toList) ∧
          ∀ q ∈ d.resources.memoryRequest, IsPortable q.toList) := by
  refine ⟨⟨_, rfl⟩, ?_⟩
  rw [keepsAmounts_iff_asked]
  unfold asked
  simp only [List.forall_mem_append, forall_mem_setting, and_assoc]
  refine and_congr ?_ (and_congr ?_ ?_)
  · exact forall₂_congr fun q _ => same_iff_plain?
  · exact forall₂_congr fun q _ => same_iff_isPortable
  · exact forall₂_congr fun q _ => same_iff_isPortable

/-- An order with limits in units of the cluster: half a processor and two gigabytes. -/
def clusterUnits : Order where
  image := "source:1"
  step := .read
  jobId := "7"
  attempt := 1
  resources := { cpuLimit := some "500m", memoryLimit := some "2G" }

/-- The runtime does not take `500m` as a number of processors, and takes `2G` for more memory. -/
theorem amounts_lost :
    (quantity? "500m").isSome ∧ (quantity? "2G").isSome ∧
      (asked clusterUnits.descriptor.resources = [(.processors, "500m"), (.memory, "2G")]) ∧
      (resourceOptions clusterUnits.descriptor.resources = ["--cpus=500m", "--memory=2G"]) ∧
      amount? "500m" = some (1 / 2) ∧ (∀ v, ¬ Sets "--cpus=500m" .processors v) ∧
      amount? "2G" = some (2 * 10 ^ 9) ∧ Sets "--memory=2G" .memory (2 * 1024 ^ 3) ∧
      ¬ KeepsAmounts clusterUnits.descriptor.resources := by
  have refused : ∀ v, ¬ Sets "--cpus=500m" .processors v := by
    intro v
    have flag : "--cpus=500m" = Setting.processors.flag ++ "500m" := by decide
    have unread : Setting.processors.read? "500m".toList = none := by decide
    rw [flag, sets_flag, unread]
    nofun
  refine ⟨by decide, by decide, by decide, by decide, by decide +kernel, refused,
    by decide +kernel, ⟨"2G", by decide, by decide +kernel⟩, ?_⟩
  rintro (_ | ⟨⟨v, -, set⟩, -⟩)
  exact refused v set

end ConnectorSync.Docker
