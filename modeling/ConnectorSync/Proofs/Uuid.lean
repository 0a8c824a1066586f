import ConnectorSync.Uuid

/-!
# Written identifiers are read back
-/

namespace ConnectorSync.Uuid

theorem hexValue?_hexDigit : ∀ d : Fin 16, hexValue? (hexDigit d) = some d := by decide

theorem ofDigits?_map_hexDigit (u : Uuid) : ofDigits? (u.digits.map hexDigit) = some u := by
  have values (ds : List (Fin 16)) : (ds.map hexDigit).mapM hexValue? = some ds := by
    induction ds with
    | nil => rfl
    | cons d ds ih => simp [hexValue?_hexDigit, ih]
  rw [ofDigits?, values]
  exact dif_pos u.length_digits

/-- The groups of digits are found between the hyphens. -/
theorem hyphenated?_groups {a b c d e : List Char} (ha : a.length = 8) (hb : b.length = 4)
    (hc : c.length = 4) (hd : d.length = 4) (he : e.length = 12) :
    hyphenated? (a ++ '-' :: b ++ '-' :: c ++ '-' :: d ++ '-' :: e) =
      ofDigits? (a ++ b ++ c ++ d ++ e) := by
  simp [hyphenated?, ha, hb, hc, hd, he, List.drop_append, List.drop_of_length_le]

theorem parse?_render (u : Uuid) : parse? u.render = some u := by
  have length : (u.digits.map hexDigit).length = 32 := by
    rw [List.length_map, u.length_digits]
  have groups : hyphenated? u.render.toList = some u := by
    rw [render, String.toList_ofList, hyphenated?_groups]
    · rw [← List.take_add, ← List.take_add, ← List.take_add, List.take_append_drop,
        ofDigits?_map_hexDigit]
    all_goals simp [length]
  unfold parse?
  simp only [groups, Option.some_or]

end ConnectorSync.Uuid
