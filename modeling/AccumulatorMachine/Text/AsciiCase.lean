/-!
# Equality up to ASCII case

Operator names are compared without regard to the case of ASCII letters, and
only of those: no other character has a second spelling. A letter is told by its
code point, and so is what becomes of it in the other case.
-/

namespace AccumulatorMachine.Text

/-! ## Letters -/

/-- A small letter is 32 places behind its capital, and what is no capital stays. -/
theorem toNat_toLower (c : Char) :
    c.toLower.toNat = if 65 ≤ c.toNat ∧ c.toNat ≤ 90 then c.toNat + 32 else c.toNat := by
  by_cases h : 65 ≤ c.toNat ∧ c.toNat ≤ 90
  · have hcapital : c.val ≥ 'A'.val ∧ c.val ≤ 'Z'.val := h
    have hlower : c.toLower.toNat = (c.toNat + 32) % 2 ^ 32 :=
      congrArg Char.toNat (dif_pos hcapital)
    rw [if_pos h, hlower]
    omega
  · have hother : ¬ (c.val ≥ 'A'.val ∧ c.val ≤ 'Z'.val) := h
    have hlower : c.toLower = c := dif_neg hother
    rw [if_neg h, hlower]

/-- A capital is 32 places in front of its small letter, and what is no small letter stays. -/
theorem toNat_toUpper (c : Char) :
    c.toUpper.toNat = if 97 ≤ c.toNat ∧ c.toNat ≤ 122 then c.toNat - 32 else c.toNat := by
  by_cases h : 97 ≤ c.toNat ∧ c.toNat ≤ 122
  · have hsmall : 'a'.val ≤ c.val ∧ c.val ≤ 'z'.val := h
    -- the distance is added as a number of 32 bits, where it wraps around
    have hdistance : ('A'.val - 'a'.val).toNat = 2 ^ 32 - 32 := by decide
    have hupper : c.toUpper.toNat = (c.toNat + ('A'.val - 'a'.val).toNat) % 2 ^ 32 :=
      (congrArg Char.toNat (dif_pos hsmall)).trans (UInt32.toNat_add _ _)
    rw [if_pos h, hupper, hdistance]
    omega
  · have hother : ¬ ('a'.val ≤ c.val ∧ c.val ≤ 'z'.val) := h
    have hupper : c.toUpper = c := dif_neg hother
    rw [if_neg h, hupper]

/-- **The letters of ASCII.** -/
theorem isAlpha_iff {c : Char} :
    c.isAlpha = true ↔ (65 ≤ c.toNat ∧ c.toNat ≤ 90) ∨ (97 ≤ c.toNat ∧ c.toNat ≤ 122) := by
  have hcapital : c.isUpper = true ↔ 65 ≤ c.toNat ∧ c.toNat ≤ 90 := decide_eq_true_iff
  have hsmall : c.isLower = true ↔ 97 ≤ c.toNat ∧ c.toNat ≤ 122 :=
    (Bool.and_eq_true_iff).trans (and_congr decide_eq_true_iff decide_eq_true_iff)
  exact Bool.or_eq_true_iff.trans (or_congr hcapital hsmall)

/-! ## Texts -/

/-- Whether two texts agree once their ASCII letters are made small. -/
def equalIgnoringCase (a b : String) : Bool :=
  a.toList.map Char.toLower == b.toList.map Char.toLower

end AccumulatorMachine.Text
