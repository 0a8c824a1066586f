/-!
# Maps with text keys

Maps from texts to values, kept as a list in the order of the keys. Two maps with the same look-ups
are the same list, so a map has one written form.
-/

namespace ConnectorSync

/-- A map with text keys, as entries in the order of their keys. -/
@[ext]
structure StringMap (α : Type) where
  entries : List (String × α)
  ordered : entries.Pairwise (fun a b => a.1 < b.1)

namespace StringMap

variable {α : Type}

/-- The entries with one more, which replaces one of the same key. -/
def insertEntry (key : String) (v : α) : List (String × α) → List (String × α)
  | [] => [(key, v)]
  | (k, w) :: rest =>
    if key = k then (key, v) :: rest
    else if key < k then (key, v) :: (k, w) :: rest
    else (k, w) :: insertEntry key v rest

theorem mem_insertEntry {key : String} {v : α} {es : List (String × α)} {e : String × α}
    (h : e ∈ insertEntry key v es) : e = (key, v) ∨ e ∈ es := by
  induction es with
  | nil => simpa [insertEntry] using h
  | cons d rest ih =>
    obtain ⟨k, w⟩ := d
    rw [insertEntry] at h
    split at h
    · rcases List.mem_cons.1 h with h | h
      · exact .inl h
      · exact .inr (List.mem_cons_of_mem _ h)
    · split at h
      · rcases List.mem_cons.1 h with h | h
        · exact .inl h
        · exact .inr h
      · rcases List.mem_cons.1 h with h | h
        · exact .inr (h ▸ List.mem_cons_self)
        · exact (ih h).imp id (List.mem_cons_of_mem _)

theorem pairwise_insertEntry {key : String} {v : α} {es : List (String × α)}
    (h : es.Pairwise (fun a b => a.1 < b.1)) :
    (insertEntry key v es).Pairwise (fun a b => a.1 < b.1) := by
  induction es with
  | nil => simp [insertEntry]
  | cons d rest ih =>
    obtain ⟨k, w⟩ := d
    have ⟨first, others⟩ := List.pairwise_cons.1 h
    rw [insertEntry]
    split
    · next same => exact List.pairwise_cons.2 ⟨fun b hb => same ▸ first b hb, others⟩
    · split
      · next less =>
        refine List.pairwise_cons.2 ⟨fun b hb => ?_, h⟩
        rcases List.mem_cons.1 hb with hb | hb
        · exact hb ▸ less
        · exact String.lt_trans less (first b hb)
      · next different notLess =>
        refine List.pairwise_cons.2 ⟨fun b hb => ?_, ih others⟩
        rcases mem_insertEntry hb with hb | hb
        · have le : k ≤ key := String.not_lt.1 notLess
          have : k < key := by
            apply Classical.byContradiction
            intro not
            exact different (String.le_antisymm (String.not_lt.1 not) le)
          exact hb ▸ this
        · exact first b hb

def empty : StringMap α := ⟨[], .nil⟩

instance : Inhabited (StringMap α) := ⟨empty⟩

def insert (m : StringMap α) (key : String) (v : α) : StringMap α :=
  ⟨insertEntry key v m.entries, pairwise_insertEntry m.ordered⟩

/-- The map of a list of entries; of repeated keys the last one counts. -/
def ofList (es : List (String × α)) : StringMap α :=
  es.foldl (fun m e => m.insert e.1 e.2) empty

def find? (m : StringMap α) (key : String) : Option α :=
  (m.entries.find? (·.1 = key)).map (·.2)

theorem find?_insertEntry (key other : String) (v : α) (es : List (String × α)) :
    ((insertEntry key v es).find? (·.1 = other)).map (·.2) =
      if other = key then some v else (es.find? (·.1 = other)).map (·.2) := by
  induction es with
  | nil => by_cases same : other = key <;> simp [insertEntry, same, eq_comm]
  | cons e rest ih =>
    obtain ⟨k, w⟩ := e
    rw [insertEntry]
    split
    · next same =>
      subst same
      by_cases here : other = key <;> simp [here, eq_comm]
    · next different =>
      split
      · by_cases here : other = key <;> simp [List.find?_cons, here, eq_comm]
      · by_cases there : k = other
        · subst there
          simp [Ne.symm different]
        · simpa [List.find?_cons, there] using ih

theorem find?_insert (m : StringMap α) (key other : String) (v : α) :
    (m.insert key v).find? other = if other = key then some v else m.find? other :=
  find?_insertEntry key other v m.entries

/-- The keys of a map are different, so it does not matter from which end a key is looked up. -/
theorem find?_reverse (m : StringMap α) (key : String) :
    m.entries.reverse.find? (·.1 = key) = m.entries.find? (·.1 = key) := by
  obtain ⟨entries, ordered⟩ := m
  induction entries with
  | nil => rfl
  | cons e rest ih =>
    have ⟨first, others⟩ := List.pairwise_cons.1 ordered
    have ih : rest.reverse.find? (·.1 = key) = rest.find? (·.1 = key) := ih others
    rw [List.reverse_cons, List.find?_append, ih, List.find?_cons]
    by_cases same : e.1 = key
    · have absent : rest.find? (·.1 = key) = none := by
        refine List.find?_eq_none.2 fun other there => ?_
        have less := first other there
        rw [same] at less
        exact fun again => String.lt_irrefl _ (of_decide_eq_true again ▸ less)
      simp [absent, same]
    · simp [same]

/-- The map without a key. -/
def erase (m : StringMap α) (key : String) : StringMap α :=
  ⟨m.entries.filter (·.1 ≠ key), m.ordered.filter _⟩

def keys (m : StringMap α) : List String := m.entries.map (·.1)

theorem find?_eq_none {m : StringMap α} {key : String} : m.find? key = none ↔ key ∉ m.keys := by
  simp only [find?, keys, Option.map_eq_none_iff, List.find?_eq_none, decide_eq_true_eq,
    List.mem_map, not_exists, not_and]

def contains (m : StringMap α) (key : String) : Bool := (m.find? key).isSome

end StringMap

instance {α : Type} [DecidableEq α] : DecidableEq (StringMap α) := fun a b =>
  if h : a.entries = b.entries then isTrue (StringMap.ext h)
  else isFalse fun same => h (congrArg StringMap.entries same)

end ConnectorSync
