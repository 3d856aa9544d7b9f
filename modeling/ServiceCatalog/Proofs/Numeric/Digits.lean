import ServiceCatalog.Numeric.Digits

/-!
# Numbers are read back from their digits

A number is written as a list of decimal digits (`isDigit_of_mem_decimalDigits`) that begins with a
zero for zero alone (`decimalDigits_eq_zero_cons`), and the number that such a list writes is the
number it was written for (`ofDigits_decimalDigits`).  So numbers below sixteen are read back from
their hexadecimal digit (`hexValue?_hexDigit`).
-/

namespace ServiceCatalog.Numeric

set_option autoImplicit false

/-! ## Single digits -/

theorem digitValue_digitChar :
    ∀ {digit : Nat}, digit < 10 → digitValue (digitChar digit) = digit := by
  decide

theorem isDigit_digitChar : ∀ {digit : Nat}, digit < 10 → (digitChar digit).isDigit = true := by
  decide

/-- A hexadecimal digit has its value. -/
theorem hexValue?_hexDigit :
    ∀ {digit : Nat}, digit < 16 → hexValue? (hexDigit digit) = some digit := by
  decide

/-- Only digits are written for a number in base sixteen. -/
theorem exists_hexDigit_of_mem_hexDigits {number : Nat} {character : Char}
    (member : character ∈ hexDigits number) : ∃ digit, digit < 16 ∧ hexDigit digit = character := by
  induction number using hexDigits.induct with
  | case1 number small =>
      rw [hexDigits, if_pos small, List.mem_singleton] at member
      exact ⟨number, small, member.symm⟩
  | case2 number great ih =>
      rw [hexDigits, if_neg great, List.mem_append, List.mem_singleton] at member
      rcases member with before | last
      · exact ih before
      · exact ⟨number % 16, Nat.mod_lt number (by decide), last.symm⟩

/-! ## Decimal writing -/

theorem decimalDigits_of_lt {number : Nat} (small : number < 10) :
    decimalDigits number = [digitChar number] := by
  rw [decimalDigits, if_pos small]

theorem decimalDigits_of_ge {number : Nat} (great : 10 ≤ number) :
    decimalDigits number = decimalDigits (number / 10) ++ [digitChar (number % 10)] := by
  rw [decimalDigits, if_neg (by omega)]

theorem decimalDigits_ne_nil (number : Nat) : decimalDigits number ≠ [] := by
  rcases Nat.lt_or_ge number 10 with small | great
  · simp [decimalDigits_of_lt small]
  · simp [decimalDigits_of_ge great]

/-- Only digits are written for a number. -/
theorem isDigit_of_mem_decimalDigits {number : Nat} {character : Char}
    (member : character ∈ decimalDigits number) : character.isDigit = true := by
  induction number using decimalDigits.induct with
  | case1 number small =>
      rw [decimalDigits_of_lt small, List.mem_singleton] at member
      exact member ▸ isDigit_digitChar small
  | case2 number great ih =>
      rw [decimalDigits_of_ge (by omega), List.mem_append, List.mem_singleton] at member
      rcases member with before | last
      · exact ih before
      · exact last ▸ isDigit_digitChar (Nat.mod_lt number (by decide))

/-- **The first digit is zero for zero alone**, which is written with no other digit. -/
theorem decimalDigits_eq_zero_cons {number : Nat} {digits : List Char}
    (begins : decimalDigits number = '0' :: digits) : number = 0 ∧ digits = [] := by
  induction number using decimalDigits.induct generalizing digits with
  | case1 number small =>
      rw [decimalDigits_of_lt small, List.cons.injEq] at begins
      have value := digitValue_digitChar small
      rw [begins.1] at value
      exact ⟨value.symm, begins.2.symm⟩
  | case2 number great ih =>
      rw [decimalDigits_of_ge (by omega)] at begins
      obtain ⟨first, rest, before⟩ := List.exists_cons_of_ne_nil (decimalDigits_ne_nil (number / 10))
      rw [before, List.cons_append, List.cons.injEq] at begins
      obtain ⟨zero, -⟩ := ih (begins.1 ▸ before)
      omega

/-! ## Reading -/

theorem ofDigitsFrom_append (read : Nat) (first second : List Char) :
    ofDigitsFrom read (first ++ second) = ofDigitsFrom (ofDigitsFrom read first) second := by
  induction first generalizing read with
  | nil => rfl
  | cons digit first ih => exact ih _

theorem ofDigitsFrom_digitChar {digit : Nat} (small : digit < 10) (read : Nat) :
    ofDigitsFrom read [digitChar digit] = read * 10 + digit := by
  change read * 10 + digitValue (digitChar digit) = read * 10 + digit
  rw [digitValue_digitChar small]

/-- **A number is read back from its digits.** -/
theorem ofDigits_decimalDigits (number : Nat) : ofDigits (decimalDigits number) = number := by
  induction number using decimalDigits.induct with
  | case1 number small =>
      rw [decimalDigits_of_lt small, ofDigits, ofDigitsFrom_digitChar small, Nat.zero_mul,
        Nat.zero_add]
  | case2 number great ih =>
      rw [ofDigits] at ih
      rw [decimalDigits_of_ge (by omega), ofDigits, ofDigitsFrom_append, ih,
        ofDigitsFrom_digitChar (Nat.mod_lt number (by decide)), Nat.div_add_mod']

end ServiceCatalog.Numeric
