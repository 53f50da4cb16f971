import AccumulatorMachine.Program.Mnemonic
import AccumulatorMachine.Proofs.Source.Terms
import AccumulatorMachine.Text.UpperCase
import Mathlib.Tactic.ByContra

/-!
# Mnemonics in any case

A mnemonic is looked up by its full upper case, and beyond ASCII a character can
have capitals within ASCII: the long s, the dotless i, the sharp s and the
ligatures of Latin letters do. None of them hides in a mnemonic. A name begins
with an ASCII character, and behind its first letter no mnemonic holds all the
capitals of any character beyond ASCII (`Mnemonic.exists_capital`). So a name is
found exactly if it is a mnemonic up to the case of ASCII letters.
-/

namespace AccumulatorMachine

namespace Text

/-- Two characters have the same small letter exactly if they have the same
capital. -/
theorem toLower_eq_toLower_iff {c d : Char} : c.toLower = d.toLower ↔ c.toUpper = d.toUpper := by
  rw [← Char.toNat_inj, ← Char.toNat_inj, toNat_toLower, toNat_toLower, toNat_toUpper,
    toNat_toUpper]
  split <;> split <;> split <;> split <;> omega

/-- **Equality up to case is equality of the capitals**, letter by letter. -/
theorem equalIgnoringCase_iff {a b : String} :
    equalIgnoringCase a b = true ↔ a.toList.map Char.toUpper = b.toList.map Char.toUpper := by
  unfold equalIgnoringCase
  rw [beq_iff_eq]
  generalize a.toList = left
  generalize b.toList = right
  induction left generalizing right with
  | nil => cases right <;> simp
  | cons c left ih =>
    cases right with
    | nil => simp
    | cons d right =>
      simp only [List.map_cons, List.cons.injEq, ih right, toLower_eq_toLower_iff]

/-- A character with a capital in ASCII is in ASCII. -/
theorem ascii_of_toUpper {c : Char} (h : c.toUpper.toNat < 128) : c.toNat < 128 := by
  rw [toNat_toUpper] at h
  split at h <;> omega

/-- The upper case of a text in ASCII is that of its letters. -/
theorem flatMap_capitals_of_ascii {text : List Char} (h : ∀ c ∈ text, c.toNat < 128) :
    text.flatMap capitals = text.map Char.toUpper := by
  induction text with
  | nil => rfl
  | cons c rest ih =>
    rw [List.flatMap_cons, List.map_cons, capitals_of_ascii (h c List.mem_cons_self),
      ih fun d hd => h d (List.mem_cons_of_mem c hd)]
    rfl

end Text

namespace Mnemonic

/-! ## The letters of mnemonics -/

/-- The letters of the mnemonics behind their first ones. -/
def tailLetters : List Char :=
  all.flatMap fun mnemonic => mnemonic.name.toList.tail

/-- The letters of mnemonics are capitals of ASCII. -/
theorem toUpper_of_mem_name {mnemonic : Mnemonic} {c : Char} (h : c ∈ mnemonic.name.toList) :
    c.toUpper = c ∧ c.toNat < 128 := by
  have hall : ∀ mnemonic ∈ all, ∀ c ∈ mnemonic.name.toList, c.toUpper = c ∧ c.toNat < 128 := by
    simp [all, name, Operator.mnemonic, AddressOp.mnemonic]
  exact hall mnemonic (mem_all mnemonic) c h

/-- The letters behind the first one are among the tail letters. -/
theorem mem_tailLetters {mnemonic : Mnemonic} {c : Char} (h : c ∈ mnemonic.name.toList.tail) :
    c ∈ tailLetters :=
  List.mem_flatMap.mpr ⟨mnemonic, mem_all mnemonic, h⟩

/-- No code point beyond ASCII is a tail letter. -/
theorem ofNat_notMem_tailLetters {n : Nat} (h : 128 ≤ n) : Char.ofNat n ∉ tailLetters := by
  intro hmem
  have hall : ∀ c ∈ tailLetters, 0 < c.toNat ∧ c.toNat < 128 := by
    simp [tailLetters, all, name, Operator.mnemonic, AddressOp.mnemonic]
  have hrange := hall _ hmem
  by_cases hvalid : n.isValidChar
  · have hcode : (Char.ofNat n).toNat = n := congrArg Char.toNat (dif_pos hvalid)
    omega
  · have hcode : (Char.ofNat n).toNat = 0 := congrArg Char.toNat (dif_neg hvalid)
    omega

/-- Every run of capitals leads beyond ASCII, or from a single character to a
letter that is no tail letter. -/
theorem caseRuns_avoid : ∀ run ∈ Text.caseRuns,
    128 ≤ (run.first : Int) + run.shift ∨
      run.first = run.last ∧ Char.ofNat (run.capital run.first) ∉ tailLetters := by
  decide +kernel

/-- Every expansion holds a capital that is no tail letter. -/
theorem expansions_avoid : ∀ entry ∈ Text.expansions,
    ∃ code ∈ entry.2, Char.ofNat code ∉ tailLetters := by
  decide +kernel

/-- **A character beyond ASCII has a capital that is no tail letter.** -/
theorem exists_capital {c : Char} (h : 128 ≤ c.toNat) :
    ∃ d ∈ Text.capitals c, d ∉ tailLetters := by
  unfold Text.capitals
  rw [if_neg (by omega)]
  split
  · next codes hlookup =>
    -- several capitals
    obtain ⟨front, back, heq, -⟩ := List.lookup_eq_some_iff.mp hlookup
    have hmem : (c.toNat, codes) ∈ Text.expansions :=
      heq ▸ List.mem_append_right _ List.mem_cons_self
    obtain ⟨code, hcode, havoid⟩ := expansions_avoid _ hmem
    exact ⟨Char.ofNat code, List.mem_map_of_mem hcode, havoid⟩
  · split
    · next run hfind =>
      -- one capital, at the distance of a run
      have hholds := List.find?_some hfind
      simp only [Text.CaseRun.holds, Bool.and_eq_true, decide_eq_true_eq] at hholds
      refine ⟨_, List.mem_singleton_self _, ?_⟩
      rcases caseRuns_avoid run (List.mem_of_find?_eq_some hfind) with hbeyond | ⟨hsingle, havoid⟩
      · refine ofNat_notMem_tailLetters ?_
        unfold Text.CaseRun.capital
        rw [Int.ofNat_eq_natCast]
        omega
      · rwa [show c.toNat = run.first by omega]
    · -- the character is its own capital
      refine ⟨c, List.mem_singleton_self c, ?_⟩
      rw [← Char.ofNat_toNat c]
      exact ofNat_notMem_tailLetters h

/-! ## Looking a name up -/

/-- An instruction is found by its own name. -/
theorem ofName?_name (mnemonic : Mnemonic) : ofName? mnemonic.name = some mnemonic := by
  have hall : ∀ mnemonic ∈ all, ofName? mnemonic.name = some mnemonic := by decide
  exact hall mnemonic (mem_all mnemonic)

/-- An instruction is found exactly by its name. -/
theorem ofName?_eq_some_iff {text : String} {mnemonic : Mnemonic} :
    ofName? text = some mnemonic ↔ mnemonic.name = text := by
  refine ⟨name_of_ofName?, ?_⟩
  rintro rfl
  exact ofName?_name mnemonic

/-- **A name whose upper case is a mnemonic is in ASCII.** -/
theorem ascii_of_upperCase_eq {mnemonic : Mnemonic} {text : List Char} (hname : IsName text)
    (h : text.flatMap Text.capitals = mnemonic.name.toList) : ∀ c ∈ text, c.toNat < 128 := by
  obtain ⟨first, rest, rfl, hfirst, -⟩ := hname
  have hascii : first.toNat < 128 := by
    rcases Spelling.startsName_iff.mp hfirst with hupper | hlower | rfl
    · omega
    · omega
    · decide
  rw [List.flatMap_cons, Text.capitals_of_ascii hascii] at h
  refine List.forall_mem_cons.mpr ⟨hascii, fun c hc => ?_⟩
  by_contra hbeyond
  obtain ⟨d, hd, havoid⟩ := exists_capital (Nat.le_of_not_lt hbeyond)
  have hletter : d ∈ mnemonic.name.toList.tail := by
    rw [← h]
    exact List.mem_flatMap.mpr ⟨c, hc, hd⟩
  exact havoid (mem_tailLetters hletter)

/-- **A name is found by its upper case** exactly if it is the mnemonic up to the
case of ASCII letters. -/
theorem ofName?_upperCase_eq_some_iff {word : String} {mnemonic : Mnemonic}
    (hname : IsName word.toList) :
    ofName? (Text.upperCase word) = some mnemonic ↔
      Text.equalIgnoringCase mnemonic.name word = true := by
  have hupper : mnemonic.name.toList.map Char.toUpper = mnemonic.name.toList :=
    (List.map_congr_left fun c hc => (toUpper_of_mem_name hc).1).trans (List.map_id _)
  rw [ofName?_eq_some_iff, Text.equalIgnoringCase_iff, hupper, ← String.toList_inj,
    Text.upperCase, String.toList_ofList]
  constructor
  · intro h
    rw [h, Text.flatMap_capitals_of_ascii (ascii_of_upperCase_eq hname h.symm)]
  · intro h
    rw [h]
    refine (Text.flatMap_capitals_of_ascii fun c hc => ?_).symm
    have hmem : c.toUpper ∈ mnemonic.name.toList := h ▸ List.mem_map_of_mem hc
    exact Text.ascii_of_toUpper (toUpper_of_mem_name hmem).2

end Mnemonic

end AccumulatorMachine
