import ConnectorSync.Proofs.Json.Reading
import ConnectorSync.Proofs.Uuid

/-!
# Records are read from their members

What a decoder makes of a written value. A record is read from an object whose members are fields of
the record, in any order and each at most once, if each field finds what it is read from, or what
stands in for it.
-/

namespace ConnectorSync

/-! ### Maps -/

namespace StringMap

variable {α : Type}

theorem insertEntry_of_lt {key : String} {v : α} {es : List (String × α)}
    (last : ∀ e ∈ es, e.1 < key) : insertEntry key v es = es ++ [(key, v)] := by
  induction es with
  | nil => rfl
  | cons e rest ih =>
    obtain ⟨k, w⟩ := e
    have less : k < key := last _ List.mem_cons_self
    have other : key ≠ k := fun same => String.lt_irrefl k (same ▸ less)
    have after : ¬ key < k := fun more => String.lt_irrefl k (String.lt_trans less more)
    rw [insertEntry, if_neg other, if_neg after,
      ih fun e there => last e (List.mem_cons_of_mem _ there), List.cons_append]

theorem entries_foldl_insert {m : StringMap α} {es : List (String × α)}
    (ordered : (m.entries ++ es).Pairwise (fun a b => a.1 < b.1)) :
    (es.foldl (fun m e => m.insert e.1 e.2) m).entries = m.entries ++ es := by
  induction es generalizing m with
  | nil => rw [List.foldl_nil, List.append_nil]
  | cons e rest ih =>
    have last : ∀ d ∈ m.entries, d.1 < e.1 := fun d there =>
      (List.pairwise_append.1 ordered).2.2 d there e List.mem_cons_self
    have inserted : (m.insert e.1 e.2).entries = m.entries ++ [e] := insertEntry_of_lt last
    rw [List.append_cons] at ordered
    rw [List.foldl_cons, ih (by rwa [inserted]), inserted, ← List.append_cons]

@[simp] theorem ofList_entries (m : StringMap α) : ofList m.entries = m := by
  apply StringMap.ext
  rw [ofList, entries_foldl_insert m.ordered]
  rfl

end StringMap

namespace Json

/-! ### Members -/

theorem Draft.ofItems_eq (vs : List Value) : Draft.ofItems vs = vs.map .ofValue := by
  induction vs with
  | nil => rw [Draft.ofItems, List.map_nil]
  | cons v vs ih => rw [Draft.ofItems, List.map_cons, ih]

theorem Draft.ofMembers_eq (ms : List (String × Value)) :
    Draft.ofMembers ms = ms.map fun (key, v) => (.ok key, .ofValue v) := by
  induction ms with
  | nil => rw [Draft.ofMembers, List.map_nil]
  | cons m ms ih => rw [Draft.ofMembers, List.map_cons, ih]

theorem member?_cons (key name : String) (v : Value) (ms : List (String × Value)) :
    (Value.object ((key, v) :: ms)).member? name =
      if key = name then some v else (Value.object ms).member? name := by
  by_cases same : key = name <;> simp [Value.member?, same]

theorem member?_of_mem {ms : List (String × Value)} (distinct : (ms.map (·.1)).Nodup) {key : String}
    {v : Value} (there : (key, v) ∈ ms) : (Value.object ms).member? key = some v := by
  induction ms with
  | nil => cases there
  | cons m rest ih =>
    obtain ⟨name, w⟩ := m
    obtain ⟨first, others⟩ := List.nodup_cons.1 distinct
    rw [member?_cons]
    rcases List.mem_cons.1 there with same | there
    · cases same
      exact if_pos rfl
    · have different : name ≠ key := by
        rintro rfl
        exact first (List.mem_map.2 ⟨_, there, rfl⟩)
      rw [if_neg different, ih others there]

theorem find_ofMembers (ms : List (String × Value)) (name : String) :
    Fields.find (Draft.ofMembers ms) name = ((Value.object ms).member? name).map .ofValue := by
  induction ms with
  | nil => rfl
  | cons m rest ih =>
    obtain ⟨key, v⟩ := m
    rw [member?_cons, Draft.ofMembers, Fields.find, List.find?_cons]
    by_cases same : key = name
    · simp [same]
    · simpa [same, Fields.find] using ih

/-! ### Records -/

namespace Fields

variable {α β : Type} {ms : List (String × Value)}

structure Holds (fields : Fields α) (ms : List (String × Value)) (a : α) : Prop where
  gathers : fields.gather (find (Draft.ofMembers ms)) = .ok a
  checks : ∀ check ∈ fields.checks, ∀ v, (Value.object ms).member? check.1 = some v →
    check.2 (.ofValue v) = .ok ()

theorem holds_pure (a : α) : (Fields.pure a).Holds ms a where
  gathers := rfl
  checks := nofun

theorem Holds.seq {f : Fields (α → β)} {x : Fields α} {g : α → β} {a : α} (function : f.Holds ms g)
    (argument : x.Holds ms a) : (f <*> x).Holds ms (g a) where
  gathers := by
    have gather : (f <*> x).gather (find (Draft.ofMembers ms)) = (do
      let g ← f.gather (find (Draft.ofMembers ms))
      let a ← x.gather (find (Draft.ofMembers ms))
      return g a) := rfl
    rw [gather, function.gathers, argument.gathers]
    rfl
  checks check there := by
    have all : (f <*> x).checks = f.checks ++ x.checks := rfl
    rw [all, List.mem_append] at there
    exact there.elim (function.checks check) (argument.checks check)

theorem Holds.map {x : Fields α} (g : α → β) {a : α} (argument : x.Holds ms a) :
    (g <$> x).Holds ms (g a) :=
  (holds_pure g).seq argument

theorem holds_field {name : String} {decode : Decoder α} {missing : Missing α} {v : Value} {a : α}
    (there : (Value.object ms).member? name = some v) (decodes : decode (.ofValue v) = .ok a) :
    (field name decode missing).Holds ms a where
  gathers := by
    simp only [field, find_ofMembers, there, Option.map_some, decodes]
  checks check known w found := by
    rw [List.mem_singleton.1 known] at found ⊢
    rw [there] at found
    cases found
    simp only [decodes]
    rfl

theorem holds_absent {name : String} {decode : Decoder α} {a : α}
    (absent : (Value.object ms).member? name = none) : (defaulted name decode a).Holds ms a where
  gathers := by
    simp only [defaulted, field, find_ofMembers, absent, Option.map_none]
  checks check known w found := by
    rw [List.mem_singleton.1 known] at found
    rw [absent] at found
    cases found

theorem checkMembers_ofMembers {checks : List (String × (Draft → Except Fault Unit))}
    {unknown : Unknown} {seen : List String} (known : ∀ m ∈ ms, m.1 ∈ checks.map (·.1))
    (passes : ∀ m ∈ ms, ∀ check ∈ checks, check.1 = m.1 → check.2 (.ofValue m.2) = .ok ())
    (distinct : (ms.map (·.1)).Nodup) (fresh : ∀ m ∈ ms, m.1 ∉ seen) :
    checkMembers checks unknown seen (Draft.ofMembers ms) = .ok () := by
  induction ms generalizing seen with
  | nil => rw [Draft.ofMembers, checkMembers]
  | cons m rest ih =>
    obtain ⟨key, v⟩ := m
    obtain ⟨first, others⟩ := List.nodup_cons.1 distinct
    have later : ∀ m ∈ rest, m.1 ∉ key :: seen := by
      intro m there again
      rcases List.mem_cons.1 again with same | old
      · exact first (List.mem_map.2 ⟨m, there, same⟩)
      · exact fresh m (List.mem_cons_of_mem _ there) old
    obtain ⟨check, there, same⟩ := List.mem_map.1 (known _ List.mem_cons_self)
    obtain ⟨found, which⟩ : ∃ found, checks.find? (·.1 = key) = some found :=
      Option.isSome_iff_exists.1 (List.find?_isSome.2 ⟨check, there, decide_eq_true same⟩)
    have named : found.1 = key := by
      simpa using List.find?_some which
    have tested := passes _ List.mem_cons_self found (List.mem_of_find?_eq_some which) named
    have unseen : key ∉ seen := fresh _ List.mem_cons_self
    rw [Draft.ofMembers, checkMembers]
    simp only [bind, Except.bind, which, if_neg unseen, tested]
    exact ih (fun m there => known m (List.mem_cons_of_mem _ there))
      (fun m there => passes m (List.mem_cons_of_mem _ there)) others later

/-- A record is read from members that have the names of fields, each at most once. -/
theorem record_of_holds {fields : Fields α} {a : α} (holds : fields.Holds ms a) (expected : String)
    (unknown : Unknown) (names : (ms.map (·.1)).Sublist (fields.checks.map (·.1)))
    (distinct : (fields.checks.map (·.1)).Nodup) :
    fields.record expected unknown (.ofValue (.object ms)) = .ok a := by
  have once := distinct.sublist names
  have checked : checkMembers fields.checks unknown [] (Draft.ofMembers ms) = .ok () :=
    checkMembers_ofMembers (fun m there => names.subset (List.mem_map_of_mem there))
      (fun m there check known same => holds.checks check known m.2
        (same ▸ member?_of_mem once there)) once nofun
  rw [Draft.ofValue, record, checked]
  exact holds.gathers

theorem holds_optionalText {name : String} {t : Option String}
    (there : (Value.object ms).member? name = t.map .string) :
    (defaulted name (Decode.optional Decode.text) none).Holds ms t := by
  cases t with
  | none => exact holds_absent there
  | some s => exact holds_field there rfl

end Fields

/-! ### Members that may be absent -/

theorem names_present (members : List (String × Option Value)) :
    ((members.filterMap fun (key, v) => v.map fun v => (key, v)).map (·.1)).Sublist
      (members.map (·.1)) := by
  induction members with
  | nil => exact .slnil
  | cons m rest ih =>
    obtain ⟨key, v⟩ := m
    cases v with
    | none => exact ih.cons key
    | some v => exact ih.cons_cons key

theorem member?_present {members : List (String × Option Value)}
    (distinct : (members.map (·.1)).Nodup) (name : String) :
    (Value.present members).member? name = (members.find? (·.1 = name)).bind (·.2) := by
  induction members with
  | nil => rfl
  | cons m rest ih =>
    obtain ⟨key, v⟩ := m
    obtain ⟨first, others⟩ := List.nodup_cons.1 distinct
    have ih := ih others
    by_cases same : key = name
    · subst same
      have elsewhere : rest.find? (·.1 = key) = none := List.find?_eq_none.2 fun m there again =>
        first (List.mem_map.2 ⟨m, there, of_decide_eq_true again⟩)
      rw [elsewhere] at ih
      cases v with
      | none => simpa [Value.present] using ih
      | some v => simp [Value.present, member?_cons]
    · cases v with
      | none => simpa [Value.present, same] using ih
      | some v => simpa [Value.present, member?_cons, same] using ih

/-! ### Values of one type -/

namespace Decode

variable {α : Type}

theorem text_string (s : String) : text (.ofValue (.string s)) = .ok s := rfl

theorem bool_bool (b : Bool) : bool (.ofValue (.bool b)) = .ok b := rfl

theorem integer_int {low high i : Int} (fits : low ≤ i ∧ i ≤ high) (expected : String) :
    integer low high expected (.ofValue (.int i)) = .ok i :=
  if_pos fits

theorem nat32_nat {n : Nat} (small : n < 2 ^ 32) : nat32 (.ofValue (.nat n)) = .ok n := by
  have fits : (0 : Int) ≤ n ∧ (n : Int) ≤ (Nat.pow 2 32 - 1 : Nat) :=
    ⟨Int.natCast_nonneg n, Int.ofNat_le.2 (Nat.le_sub_one_of_lt small)⟩
  rw [nat32, Value.nat, integer_int fits]
  rfl

theorem nat64_nat {n : Nat} (small : n < 2 ^ 64) : nat64 (.ofValue (.nat n)) = .ok n := by
  have fits : (0 : Int) ≤ n ∧ (n : Int) ≤ (Nat.pow 2 64 - 1 : Nat) :=
    ⟨Int.natCast_nonneg n, Int.ofNat_le.2 (Nat.le_sub_one_of_lt small)⟩
  rw [nat64, Value.nat, integer_int fits]
  rfl

theorem word32_toNat (w : UInt32) : word32 (.ofValue (.nat w.toNat)) = .ok w := by
  rw [word32, nat32_nat w.toNat_lt]
  exact congrArg Except.ok (UInt32.ofNat_toNat ..)

theorem word64_toNat (w : UInt64) : word64 (.ofValue (.nat w.toNat)) = .ok w := by
  rw [word64, nat64_nat w.toNat_lt]
  exact congrArg Except.ok (UInt64.ofNat_toNat ..)

theorem int64_int {i : Int} (low : -(2 ^ 63 : Nat) ≤ i) (high : i < (2 ^ 63 : Nat)) :
    int64 (.ofValue (.int i)) = .ok i := by
  have last : ((Nat.pow 2 63 - 1 : Nat) : Int) = (2 ^ 63 : Nat) - 1 := rfl
  exact integer_int ⟨low, by omega⟩ _

theorem uuid_render (u : Uuid) : uuid (.ofValue (.string u.render)) = .ok u := by
  have read : text (.ofValue (.string u.render)) = .ok u.render := rfl
  rw [uuid, notated, read]
  simp only [bind, Except.bind, Uuid.parse?_render]

theorem optional_orNull {decode : Decoder α} {encode : α → Value} {o : Option α}
    (decodes : ∀ a, o = some a → decode (.ofValue (encode a)) = .ok a)
    (present : ∀ a, Draft.ofValue (encode a) ≠ .null) :
    optional decode (.ofValue (.orNull (o.map encode))) = .ok o := by
  cases o with
  | none => rfl
  | some a =>
    have decodes := decodes a rfl
    have present := present a
    show optional decode (.ofValue (encode a)) = .ok (some a)
    generalize Draft.ofValue (encode a) = d at decodes present
    cases d with
    | null => exact absurd rfl present
    | _ => exact congrArg (Except.map some) decodes

theorem mapM_map_ok {β ε : Type} {f : α → β} {g : β → Except ε α} (undoes : ∀ a, g (f a) = .ok a)
    (items : List α) : (items.map f).mapM g = .ok items := by
  induction items with
  | nil => rfl
  | cons a rest ih =>
    rw [List.map_cons, List.mapM_cons, undoes, ih]
    rfl

theorem listOf_ofList {decode : Decoder α} {encode : α → Value}
    (decodes : ∀ a, decode (.ofValue (encode a)) = .ok a) (items : List α) :
    listOf decode (.ofValue (.ofList encode items)) = .ok items := by
  rw [Value.ofList, Draft.ofValue, Draft.ofItems_eq, List.map_map, listOf,
    mapM_map_ok (f := Draft.ofValue ∘ encode) decodes]
  rfl

theorem mapOf_ofMap {decode : Decoder α} {encode : α → Value}
    (decodes : ∀ a, decode (.ofValue (encode a)) = .ok a) (m : StringMap α) :
    mapOf decode (.ofValue (.ofMap encode m)) = .ok m := by
  rw [Value.ofMap, Draft.ofValue, Draft.ofMembers_eq, List.map_map, mapOf, mapM_map_ok]
  · exact congrArg Except.ok (StringMap.ofList_entries m)
  · intro e
    simp only [Function.comp, decodes]
    rfl

end Decode

end Json

end ConnectorSync
