import ConnectorSync.Text.Numeral

/-!
# Decimal numerals are read back

A written number has digits only, it reads as the number it writes, so no other is written like it,
and it begins with a zero for none but zero itself.
-/

namespace ConnectorSync.Text

theorem ofDigits_eq (cs : List Char) : ofDigits cs = Nat.ofDigitChars 10 cs 0 := by
  unfold ofDigits digitValue Nat.ofDigitChars
  simp only [Nat.mul_comm]

@[simp] theorem ofDigits_toDigits (n : Nat) : ofDigits (Nat.toDigits 10 n) = n := by
  rw [ofDigits_eq, Nat.ofDigitChars_toDigits (by decide) (by decide)]

theorem isDigit_eq (c : Char) : isDigit c = c.isDigit := by
  simp [isDigit, Char.isDigit, Char.le_def, UInt32.le_iff_toNat_le]

theorem isDigit_of_mem_toDigits {n : Nat} {c : Char} (h : c ∈ Nat.toDigits 10 n) :
    isDigit c = true := by
  rw [isDigit_eq]
  exact Nat.isDigit_of_mem_toDigits (by decide) (by decide) h

theorem not_mem_decimal {c : Char} (other : isDigit c = false) (n : Nat) :
    c ∉ (decimal n).toList := by
  intro mem
  rw [decimal, String.toList_ofList] at mem
  cases other.symm.trans (isDigit_of_mem_toDigits mem)

theorem decimal_inj {m n : Nat} : decimal m = decimal n ↔ m = n := by
  constructor
  · intro same
    have digits : Nat.toDigits 10 m = Nat.toDigits 10 n := String.ofList_inj.1 same
    rw [← ofDigits_toDigits m, digits, ofDigits_toDigits]
  · rintro rfl
    rfl

/-- The first digit of a positive number is not zero. -/
theorem toDigits_cons {n : Nat} (positive : 0 < n) :
    ∃ c cs, Nat.toDigits 10 n = c :: cs ∧ c ≠ '0' := by
  induction n using Nat.strongRecOn with
  | ind n ih =>
    by_cases small : n < 10
    · refine ⟨_, [], Nat.toDigits_of_lt_base small, fun same => ?_⟩
      have value := Nat.toNat_digitChar_of_lt_ten small
      rw [same] at value
      have : (48 : Nat) = 48 + n := value
      omega
    · have tens : 0 < n / 10 := Nat.div_pos (Nat.not_lt.1 small) (by decide)
      obtain ⟨c, cs, same, leads⟩ := ih (n / 10) (Nat.div_lt_self positive (by decide)) tens
      have split := Nat.toDigits_append_toDigits (b := 10) (d := n % 10) (by decide) tens
        (Nat.mod_lt n (by decide))
      rw [Nat.div_add_mod, same] at split
      exact ⟨c, _, split.symm, leads⟩

end ConnectorSync.Text
