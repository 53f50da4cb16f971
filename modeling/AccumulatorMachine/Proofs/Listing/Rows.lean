import AccumulatorMachine.Listing.Image
import AccumulatorMachine.Proofs.Text.Numeral
import AccumulatorMachine.Proofs.Text.Split

/-!
# Rows of listings

A listing is its rows with a line feed behind each. A row that holds no line feed is
one line, so that the rows are got back from the text (`Text.lines_ofRows`).

Which characters a text holds is followed from its parts to the whole (`Text.Only`).
The row of a memory word holds letters, digits and spaces, whatever the word and
wherever it stands (`Listing.only_memoryRow`): no line feed, nothing that a mark
could be taken for, and no escape character. Its numbers are filled up to columns of
three characters, so that the word stands in the same column of every row
(`Listing.decimalColumn_memoryRow`).
-/

namespace AccumulatorMachine

namespace Text

/-! ## Lines -/

/-- **The lines of a text** that a line feed ends. -/
def lines (text : String) : List String :=
  (splitOn '\n' text.toList).dropLast.map String.ofList

/-- **The lines of a listing are its rows**, as long as none of them holds a line
feed. -/
theorem lines_ofRows {rows : List String} (h : ∀ row ∈ rows, '\n' ∉ row.toList) :
    lines (Listing.ofRows rows) = rows := by
  have htext : (rows.map String.toList).flatMap (· ++ ['\n']) ++ []
      = (Listing.ofRows rows).toList := by
    unfold Listing.ofRows
    rw [String.toList_join, List.append_nil, List.flatMap_map, List.flatMap_map]
    refine congrArg (List.flatMap · rows) (funext fun row => ?_)
    exact (String.toList_append : (row ++ "\n").toList = _).symm
  have hsplit : splitOn '\n' (Listing.ofRows rows).toList = rows.map String.toList ++ [[]] :=
    splitOn_eq_concat_iff.mpr ⟨List.forall_mem_map.mpr h, List.not_mem_nil, htext⟩
  unfold lines
  rw [hsplit, List.dropLast_concat, List.map_map]
  exact (List.map_congr_left fun row _ => String.ofList_toList).trans (List.map_id rows)

/-! ## The characters of a text -/

/-- **A text of certain characters only.** -/
def Only (allowed : Char → Prop) (text : String) : Prop :=
  ∀ c ∈ text.toList, allowed c

instance (allowed : Char → Prop) [DecidablePred allowed] (text : String) :
    Decidable (Only allowed text) :=
  List.decidableBAll allowed text.toList

section Only

variable {allowed : Char → Prop} {text other : String}

/-- Two texts together hold what each of them may hold. -/
theorem Only.append (h : Only allowed text) (hother : Only allowed other) :
    Only allowed (text ++ other) := by
  unfold Only
  rw [String.toList_append]
  exact List.forall_mem_append.mpr ⟨h, hother⟩

/-- Texts in a row hold what each of them may hold. -/
theorem Only.join {texts : List String} (h : ∀ text ∈ texts, Only allowed text) :
    Only allowed (String.join texts) := by
  unfold Only
  rw [String.toList_join]
  intro c hc
  obtain ⟨text, htext, hmem⟩ := List.mem_flatMap.mp hc
  exact h text htext c hmem

/-- A character that is not allowed is not in the text. -/
theorem Only.notMem (h : Only allowed text) {c : Char} (hc : ¬ allowed c) : c ∉ text.toList :=
  fun hmem => hc (h c hmem)

/-- A character is not in a text that holds only others. -/
theorem only_ne_iff {c : Char} : Only (· ≠ c) text ↔ c ∉ text.toList :=
  ⟨fun h => h.notMem (not_not.mpr rfl), fun h _ hmem heq => h (heq ▸ hmem)⟩

/-- Filling a text from the left adds the character that it is filled with. -/
theorem Only.alignRight (h : Only allowed text) {fill : Char} (hfill : allowed fill)
    (width : Nat) : Only allowed (Text.alignRight width fill text) := by
  unfold Only Text.alignRight
  rw [String.toList_ofList]
  exact List.forall_mem_append.mpr ⟨fun c hc => List.eq_of_mem_replicate hc ▸ hfill, h⟩

/-- Filling a text from the right adds spaces. -/
theorem Only.alignLeft (h : Only allowed text) (hspace : allowed ' ') (width : Nat) :
    Only allowed (Text.alignLeft width text) := by
  unfold Only Text.alignLeft
  rw [String.toList_ofList]
  exact List.forall_mem_append.mpr ⟨h, fun c hc => List.eq_of_mem_replicate hc ▸ hspace⟩

/-- A number holds digits. -/
theorem only_decimal (h : ∀ c : Char, c.isDigit = true → allowed c) (n : Nat) :
    Only allowed (decimal n) :=
  fun c hc => h c (isDigit_of_mem_decimal hc)

end Only

end Text

namespace Listing

/-! ## Rows of memory words -/

/-- The characters of rows of memory: letters, digits and spaces. -/
def IsRowCharacter (c : Char) : Prop :=
  (c.isAlphanum || c == ' ') = true

instance : DecidablePred IsRowCharacter :=
  fun c => inferInstanceAs (Decidable ((c.isAlphanum || c == ' ') = true))

/-- A number holds row characters. -/
theorem only_decimal (n : Nat) : Text.Only IsRowCharacter (Text.decimal n) := by
  refine Text.only_decimal (fun c hc => ?_) n
  unfold IsRowCharacter Char.isAlphanum
  rw [hc, Bool.or_true, Bool.true_or]

/-- The bits of a word are row characters. -/
theorem only_binary (word : Word) : Text.Only IsRowCharacter (Text.binary word) := by
  unfold Text.Only Text.binary
  rw [String.toList_ofList]
  refine List.forall_mem_map.mpr fun bit _ => ?_
  cases bit <;> decide

/-- An instruction holds row characters. -/
theorem only_disassembly (word : Word) : Text.Only IsRowCharacter word.disassembly := by
  unfold Word.disassembly
  split
  · have hname : ∀ op : Operator, Text.Only IsRowCharacter op.mnemonic := by
      intro op
      cases op <;> decide
    exact .join (List.forall_mem_cons.mpr
      ⟨by decide, List.forall_mem_map.mpr fun op _ => .append (by decide) (hname op)⟩)
  · next op _ =>
    have hname : Text.Only IsRowCharacter op.mnemonic := by cases op <;> decide
    exact (hname.append (by decide)).append (only_decimal _)
  · decide

/-- **A row of memory** holds letters, digits and spaces. -/
theorem only_memoryRow (index : Nat) (word : Word) :
    Text.Only IsRowCharacter (memoryRow .plain index word) := by
  have hgap : Text.Only IsRowCharacter "  " := by decide
  have hnumber : ∀ n, Text.Only IsRowCharacter (Text.alignRight 3 ' ' (Text.decimal n)) :=
    fun n => (only_decimal n).alignRight (by decide) 3
  exact ((((((hnumber index).append hgap).append (hnumber word.toNat)).append hgap).append
    (only_binary word)).append hgap).append (only_disassembly word)

/-- **The decimal column of a row of memory**: the three characters behind the column
of the index and the gap of two. -/
def decimalColumn (row : String) : String :=
  String.ofList ((row.toList.drop 5).take 3)

example : decimalColumn memoryHeader = "dec" := by decide

/-- **A word stands in the decimal column of its row**, with or without marks behind
the row. -/
theorem decimalColumn_memoryRow {style : ListingStyle} {index : Nat} (hindex : index < 1000)
    (word : Word) (rest : String) :
    decimalColumn (memoryRow style index word ++ rest)
      = Text.alignRight 3 ' ' (Text.decimal word.toNat) := by
  have hlength : ∀ n, n < 1000 →
      (Text.alignRight 3 ' ' (Text.decimal n)).toList.length = 3 := by
    intro n hn
    unfold Text.alignRight
    rw [String.toList_ofList, List.length_leftpad]
    exact Nat.max_eq_left (Text.length_toList_decimal_le (by decide) hn)
  have hword : word.toNat < 1000 := Nat.lt_trans word.toNat_lt (by decide)
  have hindexGap : (Text.alignRight 3 ' ' (Text.decimal index) ++ "  ").toList.length = 5 := by
    rw [String.toList_append, List.length_append, hlength index hindex]
    rfl
  unfold decimalColumn memoryRow
  simp only [String.append_assoc]
  rw [← String.append_assoc, String.toList_append, List.drop_left' hindexGap, String.toList_append,
    List.take_left' (hlength _ hword), String.ofList_toList]

end Listing

end AccumulatorMachine
