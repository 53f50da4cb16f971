import AccumulatorMachine.Text.Numeral
import Mathlib.Data.List.TakeWhile
import Mathlib.Tactic.Ring

/-!
# What a numeral stands for

A numeral is read from the left and checked against its limit at every digit.
`numeralValue` gives it its meaning by places, from the right, and knows no
limit. A number only grows as it is read, so the digits at the beginning of a text
decide what becomes of it (`readDecimal_eq`): if their value is beyond the limit, this
is found before the character behind them is looked at. Reading succeeds exactly on
digits whose value is within the limit (`readDecimal_eq_ok_iff`). The digits that a
number is written in have its value (`numeralValue_decimal`).
-/

namespace AccumulatorMachine.Text

/-- The number that a digit stands for. -/
def digitValue (c : Char) : Nat :=
  c.toNat - '0'.toNat

/-- **The number that digits stand for**, each by its place. -/
def numeralValue : List Char → Nat
  | [] => 0
  | c :: rest => digitValue c * 10 ^ rest.length + numeralValue rest

/-- **Reading on from a number**: the digits that come next decide whether it grows
too large, and what is behind them whether it is a numeral. -/
theorem readDecimalFrom_eq {limit value : Nat} {text : List Char} (hvalue : value ≤ limit) :
    readDecimalFrom limit value text =
      let run := text.takeWhile Char.isDigit
      if limit < value * 10 ^ run.length + numeralValue run then .error .tooLarge
      else if run = text then .ok (value * 10 ^ run.length + numeralValue run)
      else .error .invalidDigit := by
  induction text generalizing value with
  | nil =>
    have hwithin : ¬ limit < value * 10 ^ ([] : List Char).length + numeralValue [] := by
      rw [List.length_nil, pow_zero, mul_one, numeralValue, add_zero]
      exact Nat.not_lt.mpr hvalue
    rw [List.takeWhile_nil]
    dsimp only
    rw [if_neg hwithin, if_pos rfl, readDecimalFrom, List.length_nil, pow_zero, mul_one,
      numeralValue, add_zero]
  | cons c rest ih =>
    rw [readDecimalFrom]
    by_cases hdigit : c.isDigit = true
    · have hplace : ∀ run : List Char, value * 10 ^ (c :: run).length + numeralValue (c :: run)
          = (value * 10 + digitValue c) * 10 ^ run.length + numeralValue run := by
        intro run
        rw [numeralValue, List.length_cons]
        ring
      rw [if_pos hdigit, List.takeWhile_cons_of_pos hdigit]
      dsimp only
      rw [hplace, show c.toNat - '0'.toNat = digitValue c from rfl]
      by_cases hgrown : value * 10 + digitValue c ≤ limit
      · rw [if_pos hgrown, ih hgrown]
        simp only [List.cons.injEq, true_and]
      · -- the number is too large already, and does not shrink
        have hgrow : value * 10 + digitValue c
            ≤ (value * 10 + digitValue c) * 10 ^ (rest.takeWhile Char.isDigit).length :=
          Nat.le_mul_of_pos_right _ (Nat.pow_pos (by omega))
        rw [if_neg hgrown, if_pos (by omega)]
    · rw [if_neg hdigit, List.takeWhile_cons_of_neg hdigit]
      dsimp only
      rw [List.length_nil, pow_zero, mul_one, numeralValue, add_zero,
        if_neg (Nat.not_lt.mpr hvalue), if_neg (List.cons_ne_nil c rest).symm]

/-- **What becomes of a text that is read as a numeral**, by its value and by what is
behind its digits. -/
theorem readDecimal_eq {limit : Nat} {text : List Char} (hne : text ≠ []) :
    readDecimal limit text =
      let run := text.takeWhile Char.isDigit
      if limit < numeralValue run then .error .tooLarge
      else if run = text then .ok (numeralValue run)
      else .error .invalidDigit := by
  unfold readDecimal
  rw [if_neg (by rw [List.isEmpty_iff]; exact hne), readDecimalFrom_eq (Nat.zero_le limit)]
  simp only [Nat.zero_mul, Nat.zero_add]

/-- **A numeral is read** exactly if it is one or more digits whose value is
within the limit. -/
theorem readDecimal_eq_ok_iff {limit result : Nat} {digits : List Char} :
    readDecimal limit digits = .ok result ↔
      digits ≠ [] ∧ (∀ c ∈ digits, c.isDigit = true) ∧ numeralValue digits ≤ limit ∧
        result = numeralValue digits := by
  by_cases hne : digits = []
  · subst hne
    exact ⟨fun h => absurd h (by simp [readDecimal]), fun h => absurd rfl h.1⟩
  rw [readDecimal_eq hne, and_iff_right hne, ← List.takeWhile_eq_self_iff]
  dsimp only
  by_cases hall : digits.takeWhile Char.isDigit = digits
  · rw [hall, if_pos rfl, and_iff_right rfl]
    by_cases hlarge : limit < numeralValue digits
    · rw [if_pos hlarge]
      exact iff_of_false (by simp) fun h => absurd h.1 (Nat.not_le.mpr hlarge)
    · rw [if_neg hlarge, Except.ok.injEq, and_iff_right (Nat.not_lt.mp hlarge)]
      exact eq_comm
  · rw [if_neg hall]
    refine iff_of_false ?_ fun h => hall h.1
    split <;> simp

/-- **A numeral that may carry a plus sign is read** exactly if it is one or more digits
within the limit, with at most one such sign in front of them. -/
theorem readSignedDecimal_eq_ok_iff {limit result : Nat} {text : List Char} :
    readSignedDecimal limit text = .ok result ↔
      ∃ sign digits, text = sign ++ digits ∧ (sign = [] ∨ sign = ['+']) ∧ digits ≠ [] ∧
        (∀ c ∈ digits, c.isDigit = true) ∧ numeralValue digits ≤ limit ∧
        result = numeralValue digits := by
  unfold readSignedDecimal
  constructor
  · intro h
    split at h
    · next digits => exact ⟨['+'], digits, rfl, .inr rfl, readDecimal_eq_ok_iff.mp h⟩
    · exact ⟨[], text, rfl, .inl rfl, readDecimal_eq_ok_iff.mp h⟩
  · rintro ⟨sign, digits, rfl, rfl | rfl, hdigits⟩
    · rw [List.nil_append]
      split
      · next rest =>
        -- the sign would have to be a digit
        exact absurd (hdigits.2.1 '+' List.mem_cons_self) (by decide)
      · exact readDecimal_eq_ok_iff.mpr hdigits
    · exact readDecimal_eq_ok_iff.mpr hdigits

/-- A numeral is too large if the digits at its beginning are. -/
theorem readDecimal_eq_tooLarge_iff {limit : Nat} {text : List Char} (hne : text ≠ []) :
    readDecimal limit text = .error .tooLarge ↔
      limit < numeralValue (text.takeWhile Char.isDigit) := by
  rw [readDecimal_eq hne]
  dsimp only
  by_cases hlarge : limit < numeralValue (text.takeWhile Char.isDigit)
  · rw [if_pos hlarge]
    exact iff_of_true rfl hlarge
  · rw [if_neg hlarge]
    refine iff_of_false ?_ hlarge
    split <;> simp

/-- A text is no numeral if something stands behind digits that are not too large. -/
theorem readDecimal_eq_invalidDigit_iff {limit : Nat} {text : List Char} (hne : text ≠ []) :
    readDecimal limit text = .error .invalidDigit ↔
      numeralValue (text.takeWhile Char.isDigit) ≤ limit ∧ ∃ c ∈ text, c.isDigit = false := by
  have hrun : text.takeWhile Char.isDigit = text ↔ ¬ ∃ c ∈ text, c.isDigit = false := by
    rw [List.takeWhile_eq_self_iff]
    simp
  rw [readDecimal_eq hne]
  dsimp only
  by_cases hlarge : limit < numeralValue (text.takeWhile Char.isDigit)
  · rw [if_pos hlarge]
    exact iff_of_false (by simp) fun h => absurd h.1 (Nat.not_le.mpr hlarge)
  · rw [if_neg hlarge, and_iff_right (Nat.le_of_not_lt hlarge)]
    by_cases hall : text.takeWhile Char.isDigit = text
    · rw [if_pos hall]
      exact iff_of_false (by simp) (hrun.mp hall)
    · rw [if_neg hall]
      exact iff_of_true rfl (not_not.mp (mt hrun.mpr hall))

/-! ## Writing a number -/

/-- The value of digits is also what they come to when they are read from the left. -/
theorem numeralValue_eq_ofDigitChars (text : List Char) :
    numeralValue text = Nat.ofDigitChars 10 text 0 := by
  induction text with
  | nil => rfl
  | cons c rest ih =>
    rw [Nat.ofDigitChars_cons, Nat.ofDigitChars_eq_ofDigitChars_zero, numeralValue, ih,
      Nat.mul_zero, Nat.zero_add, Nat.mul_comm]
    rfl

/-- A number is written in digits. -/
theorem isDigit_of_mem_decimal {n : Nat} {c : Char} (h : c ∈ (decimal n).toList) :
    c.isDigit = true := by
  unfold decimal at h
  rw [String.toList_ofList] at h
  exact Nat.isDigit_of_mem_toDigits (by decide) (by decide) h

/-- A number is written in one digit at least. -/
theorem toList_decimal_ne_nil (n : Nat) : (decimal n).toList ≠ [] := by
  unfold decimal
  rw [String.toList_ofList]
  exact Nat.toDigits_ne_nil

/-- **The digits that a number is written in stand for it.** -/
theorem numeralValue_decimal (n : Nat) : numeralValue (decimal n).toList = n := by
  unfold decimal
  rw [String.toList_ofList, numeralValue_eq_ofDigitChars, Nat.ofDigitChars_ten_toDigits]

/-- A number is written in so many digits at most if it is below the power of ten that has
one more. -/
theorem length_toList_decimal_le {n width : Nat} (hwidth : 0 < width) (h : n < 10 ^ width) :
    (decimal n).toList.length ≤ width := by
  unfold decimal
  rw [String.toList_ofList, Nat.length_toDigits_le_iff (by decide) hwidth]
  exact h

end AccumulatorMachine.Text
