/-
This file defines the shortest decimal text of a number that has finitely many decimals, and
proves that it reads as the number.

The number is counted in units of its last decimal. The text has no trailing zeros, and a point
only if the number is not whole.
-/

import GateFutures.Library.Json

namespace GateFutures.Library.Json

/-! ### Texts -/

/-- The last digits of a natural number, as many as given. -/
def lastDigits : ℕ → ℕ → List Char
  | 0, _ => []
  | count + 1, n => lastDigits count (n / 10) ++ [Nat.digitChar (n % 10)]

/-- The shortest decimal text of a number without a sign. -/
def unsignedDecimalText : ℕ → ℕ → List Char
  | 0, n => Nat.toDigits 10 n
  | decimals + 1, n =>
    if n % 10 = 0 then unsignedDecimalText decimals (n / 10)
    else Nat.toDigits 10 (n / 10 ^ (decimals + 1)) ++ '.' :: lastDigits (decimals + 1) n

/-- The shortest decimal text of a number. -/
def decimalText (decimals : ℕ) (units : ℤ) : List Char :=
  if units < 0 then '-' :: unsignedDecimalText decimals units.natAbs
  else unsignedDecimalText decimals units.natAbs

example : String.ofList (decimalText 3 1727232753840) = "1727232753.84" := by decide

/-- The text has a fraction or an exponent. -/
def HasFraction (text : List Char) : Prop := '.' ∈ text ∨ 'e' ∈ text ∨ 'E' ∈ text

instance (text : List Char) : Decidable (HasFraction text) :=
  inferInstanceAs (Decidable (_ ∨ _ ∨ _))

/-! ### Digits -/

theorem lastDigits_length (count n : ℕ) : (lastDigits count n).length = count := by
  induction count generalizing n with
  | zero => rfl
  | succ count inductionHypothesis =>
    rw [lastDigits, List.length_append, inductionHypothesis, List.length_singleton]

theorem lastDigits_isDigit (count n : ℕ) : ∀ c ∈ lastDigits count n, c.isDigit = true := by
  induction count generalizing n with
  | zero => exact List.forall_mem_nil _
  | succ count inductionHypothesis =>
    intro c member
    rcases List.mem_append.mp member with member | member
    · exact inductionHypothesis _ c member
    · rw [List.mem_singleton.mp member, Nat.isDigit_digitChar]
      exact decide_eq_true (Nat.mod_lt n (by decide))

/-- The last digits stand for the remainder. -/
theorem ofDigitChars_lastDigits (count n : ℕ) :
    Nat.ofDigitChars 10 (lastDigits count n) 0 = n % 10 ^ count := by
  induction count generalizing n with
  | zero => rw [pow_zero, Nat.mod_one]; rfl
  | succ count inductionHypothesis =>
    rw [lastDigits, Nat.ofDigitChars_append, inductionHypothesis,
      Nat.ofDigitChars_cons_digitChar_of_lt_ten (Nat.mod_lt n (by decide)), Nat.ofDigitChars_nil,
      Nat.pow_succ', Nat.mod_mul, Nat.add_comm]

theorem fractionPart_lastDigits (count n : ℕ) :
    fractionPart ('.' :: lastDigits (count + 1) n) =
      some (((n % 10 ^ (count + 1) : ℕ) : ℚ) / 10 ^ (count + 1)) := by
  have written : lastDigits (count + 1) n ≠ [] := by
    intro empty
    have length := lastDigits_length (count + 1) n
    rw [empty] at length
    cases length
  have all : (lastDigits (count + 1) n).all Char.isDigit = true :=
    List.all_eq_true.mpr (lastDigits_isDigit (count + 1) n)
  simp only [fractionPart, digits, if_pos (And.intro written all), ofDigitChars_lastDigits,
    lastDigits_length]
  rfl

/-- A digit is no letter and no punctuation. -/
theorem isDigit_ne {c other : Char} (digit : c.isDigit = true) (letter : other.isDigit = false) :
    c ≠ other := by
  rintro rfl
  cases digit.symm.trans letter

/-! ### Numbers -/

/-- A number with a point. -/
theorem unsignedNumber_point (whole count n : ℕ) :
    unsignedNumber (Nat.toDigits 10 whole ++ '.' :: lastDigits (count + 1) n) =
      some ((whole : ℚ) + ((n % 10 ^ (count + 1) : ℕ) : ℚ) / 10 ^ (count + 1)) := by
  have mantissa : (Nat.toDigits 10 whole ++ '.' :: lastDigits (count + 1) n).span
      (fun c => c ≠ 'e' && c ≠ 'E') =
      (Nat.toDigits 10 whole ++ '.' :: lastDigits (count + 1) n, []) := by
    refine span_all _ fun c member => ?_
    have noLetter : c ≠ 'e' ∧ c ≠ 'E' := by
      rcases List.mem_append.mp member with member | member
      · exact ⟨isDigit_ne (toDigits_isDigit member) rfl, isDigit_ne (toDigits_isDigit member) rfl⟩
      rcases List.mem_cons.mp member with rfl | member
      · decide
      · have digit := lastDigits_isDigit _ _ c member
        exact ⟨isDigit_ne digit rfl, isDigit_ne digit rfl⟩
    simp [noLetter.1, noLetter.2]
  have point : (Nat.toDigits 10 whole ++ '.' :: lastDigits (count + 1) n).span
      (fun c => c ≠ '.') = (Nat.toDigits 10 whole, '.' :: lastDigits (count + 1) n) := by
    refine span_append _ (fun c member => ?_) ?_
    · exact decide_eq_true (isDigit_ne (toDigits_isDigit member) rfl)
    · rintro c ⟨⟩
      rfl
  simp only [unsignedNumber, mantissa, point, wholePart_toDigits, fractionPart_lastDigits,
    exponentPart]
  show some (((whole : ℚ) + _) * 10 ^ (0 : ℤ)) = _
  rw [zpow_zero, mul_one]

/-- The text without a sign starts with a digit, and has the value of the number. -/
theorem unsignedDecimalText_reads (decimals n : ℕ) :
    numberValue (unsignedDecimalText decimals n) = unsignedNumber (unsignedDecimalText decimals n) ∧
      unsignedNumber (unsignedDecimalText decimals n) = some ((n : ℚ) / 10 ^ decimals) := by
  induction decimals generalizing n with
  | zero =>
    have starts : numberValue (Nat.toDigits 10 n ++ []) =
        unsignedNumber (Nat.toDigits 10 n ++ []) := numberValue_toDigits n
    have value : unsignedNumber (Nat.toDigits 10 n ++ []) = some ((n : ℚ) * 10 ^ (0 : ℤ)) :=
      unsignedNumber_toDigits n nofun rfl
    rw [List.append_nil] at starts value
    refine ⟨starts, ?_⟩
    rw [unsignedDecimalText, value, zpow_zero, mul_one, pow_zero, div_one]
  | succ decimals inductionHypothesis =>
    rw [unsignedDecimalText]
    split
    next zero =>
      obtain ⟨starts, value⟩ := inductionHypothesis (n / 10)
      refine ⟨starts, ?_⟩
      have tens : (n : ℚ) = 10 * ((n / 10 : ℕ) : ℚ) := by
        exact_mod_cast (Nat.mul_div_cancel' (Nat.dvd_of_mod_eq_zero zero)).symm
      rw [value, tens, pow_succ', mul_div_mul_left _ _ (by norm_num)]
    next other =>
      refine ⟨numberValue_toDigits _, ?_⟩
      rw [unsignedNumber_point]
      have split : (n : ℚ) = 10 ^ (decimals + 1) * ((n / 10 ^ (decimals + 1) : ℕ) : ℚ) +
          ((n % 10 ^ (decimals + 1) : ℕ) : ℚ) := by
        exact_mod_cast (Nat.div_add_mod n (10 ^ (decimals + 1))).symm
      have power : (10 : ℚ) ^ (decimals + 1) ≠ 0 := pow_ne_zero _ (by norm_num)
      rw [← mul_div_cancel_left₀ ((n / 10 ^ (decimals + 1) : ℕ) : ℚ) power, ← add_div, ← split]

/-- The text of a number reads as the number. -/
theorem numberValue_decimalText (decimals : ℕ) (units : ℤ) :
    numberValue (decimalText decimals units) = some ((units : ℚ) / 10 ^ decimals) := by
  obtain ⟨starts, value⟩ := unsignedDecimalText_reads decimals units.natAbs
  rw [decimalText]
  split
  next negative =>
    have cast : ((units.natAbs : ℤ) : ℚ) = -units := by
      rw [← Int.cast_neg]
      exact congrArg Int.cast (by omega)
    show (unsignedNumber _).map _ = _
    rw [value, Option.map_some, ← Int.cast_natCast, cast, neg_div, neg_neg]
  next nonnegative =>
    have cast : ((units.natAbs : ℤ) : ℚ) = units := congrArg Int.cast (by omega)
    rw [starts, value, ← Int.cast_natCast, cast]

/-! ### Fractions -/

theorem not_hasFraction_toDigits (n : ℕ) : ¬ HasFraction (Nat.toDigits 10 n) := by
  rintro (member | member | member) <;> exact absurd (toDigits_isDigit member) (by decide)

/-- The text without a sign has a fraction exactly if the number is not whole. -/
theorem hasFraction_unsigned (decimals n : ℕ) :
    HasFraction (unsignedDecimalText decimals n) ↔ ¬ 10 ^ decimals ∣ n := by
  induction decimals generalizing n with
  | zero =>
    rw [unsignedDecimalText, pow_zero]
    exact iff_of_false (not_hasFraction_toDigits n) (not_not_intro (one_dvd n))
  | succ decimals inductionHypothesis =>
    rw [unsignedDecimalText]
    split
    next zero =>
      obtain ⟨tens, rfl⟩ := Nat.dvd_of_mod_eq_zero zero
      rw [inductionHypothesis, Nat.mul_div_cancel_left tens (by decide), pow_succ',
        Nat.mul_dvd_mul_iff_left (by decide)]
    next other =>
      refine iff_of_true (Or.inl (List.mem_append_right _ List.mem_cons_self)) fun whole => other ?_
      exact Nat.mod_eq_zero_of_dvd ((dvd_pow_self 10 (Nat.succ_ne_zero decimals)).trans whole)

/-- The text of a number has a fraction exactly if the number is not whole. -/
theorem hasFraction_decimalText (decimals : ℕ) (units : ℤ) :
    HasFraction (decimalText decimals units) ↔ ¬ (10 ^ decimals : ℤ) ∣ units := by
  have magnitude : (10 ^ decimals : ℤ) ∣ units ↔ 10 ^ decimals ∣ units.natAbs := by
    rw [← Int.natAbs_dvd_natAbs, Int.natAbs_pow]
    rfl
  rw [magnitude, ← hasFraction_unsigned, decimalText]
  split
  · simp [HasFraction]
  · rfl

end GateFutures.Library.Json
