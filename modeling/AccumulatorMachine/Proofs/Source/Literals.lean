import AccumulatorMachine.Proofs.Source.Marks

/-!
# Bytes as string literals

Every list of bytes can be written as a string: a quotation mark, a backslash and
a line feed by their pairs, and any other byte as the character of that code
(`Literal.quoted`). What is written so stays on one line, is closed by its last
quotation mark and by no earlier one, and stands for the bytes again
(`Literal.spells_quoted`).

Two bytes with pairs have to be written by them, the marks and the backslash; the
line feed has to, since it would end the line.
-/

namespace AccumulatorMachine

/-! ## Escapes -/

namespace Literal

/-- The character whose code is a byte. -/
def character (byte : UInt8) : Char :=
  Char.ofNat byte.toNat

/-- **How a byte is written** in a string. -/
def escape (byte : UInt8) : List Char :=
  match character byte with
  | '"' => ['\\', '"']
  | '\\' => ['\\', '\\']
  | '\n' => ['\\', 'n']
  | c => [c]

/-- **Bytes in quotation marks.** -/
def quoted (values : List UInt8) : List Char :=
  '"' :: (values.flatMap escape ++ ['"'])

/-- The code of the character is the byte. -/
theorem toNat_character (byte : UInt8) : (character byte).toNat = byte.toNat := by
  have hlt := byte.toNat_lt
  have hvalid : byte.toNat.isValidChar := Or.inl (by omega)
  unfold character Char.ofNat
  rw [dif_pos hvalid]
  rfl

/-- **The ways to write a byte**: as a pair of a backslash and a character that means
it, or as a plain character. -/
theorem escape_cases (byte : UInt8) :
    (∃ c, escape byte = ['\\', c] ∧ c ≠ '\n' ∧ Spelling.escape? c = some (character byte)) ∨
      (escape byte = [character byte] ∧ character byte ≠ '"' ∧ character byte ≠ '\\' ∧
        character byte ≠ '\n') := by
  unfold escape
  split
  · next h => exact Or.inl ⟨'"', rfl, by decide, congrArg some h.symm⟩
  · next h => exact Or.inl ⟨'\\', rfl, by decide, congrArg some h.symm⟩
  · next h => exact Or.inl ⟨'n', rfl, by decide, congrArg some h.symm⟩
  · next hquote hbackslash hfeed => exact Or.inr ⟨rfl, hquote, hbackslash, hfeed⟩

/-- Written bytes can stand between quotation marks. -/
theorem enclosed_flatMap_escape (values : List UInt8) :
    Enclosed (· ≠ '\n') (values.flatMap escape) := by
  induction values with
  | nil => exact .nil
  | cons byte values ih =>
    rw [List.flatMap_cons]
    rcases escape_cases byte with ⟨c, hpair, hc, -⟩ | ⟨hplain, hquote, hbackslash, -⟩
    · rw [hpair]
      exact .pair hc ih
    · rw [hplain]
      exact .plain hquote hbackslash ih

/-- **Written bytes stand for their characters.** -/
theorem unescape_flatMap_escape (values : List UInt8) :
    Spelling.unescape (values.flatMap escape) = values.map character := by
  induction values with
  | nil => rfl
  | cons byte values ih =>
    rw [List.flatMap_cons, List.map_cons, ← ih]
    rcases escape_cases byte with ⟨c, hpair, -, hmeans⟩ | ⟨hplain, -, hbackslash, -⟩
    · rw [hpair, List.cons_append, List.cons_append, List.nil_append, Spelling.unescape, hmeans]
    · rw [hplain, List.singleton_append, Spelling.unescape_plain hbackslash]

/-- **A string of bytes is spelled by the bytes in quotation marks.** -/
theorem spells_quoted (values : List UInt8) : Spells (quoted values) (.string values) := by
  have hcharacters := unescape_flatMap_escape values
  have hbytes : ∀ c ∈ Spelling.unescape (values.flatMap escape), c.toNat ≤ 255 := by
    rw [hcharacters]
    refine List.forall_mem_map.mpr fun byte _ => ?_
    rw [toNat_character]
    exact Nat.le_of_lt_succ byte.toNat_lt
  have hspells := Spells.string (enclosed_flatMap_escape values) hbytes
  have hsame : (values.map character).map (fun c => UInt8.ofNat c.toNat) = values := by
    rw [List.map_map]
    refine (List.map_congr_left fun byte _ => ?_).trans (List.map_id values)
    show UInt8.ofNat (character byte).toNat = byte
    rw [toNat_character, UInt8.ofNat_toNat]
  rw [hcharacters, hsame] at hspells
  exact hspells

/-- What is written so is a word of a line. -/
theorem isWord_quoted (values : List UInt8) : IsWord (quoted values) :=
  .quoted ((enclosed_flatMap_escape values).imp fun _ _ => trivial)
    fun _ hc => absurd hc List.not_mem_nil

/-- It stays on its line. -/
theorem feed_notMem_quoted (values : List UInt8) : '\n' ∉ quoted values := by
  have hescape : ∀ byte : UInt8, '\n' ∉ escape byte := by
    intro byte
    rcases escape_cases byte with ⟨c, hpair, hc, -⟩ | ⟨hplain, -, -, hfeed⟩
    · rw [hpair]
      simp [hc.symm]
    · rw [hplain, List.mem_singleton]
      exact hfeed.symm
  unfold quoted
  rw [List.mem_cons, List.mem_append, List.mem_flatMap]
  rintro (hquote | ⟨byte, -, hmem⟩ | hquote)
  · exact absurd hquote (by decide)
  · exact hescape byte hmem
  · exact absurd hquote (by decide)

end Literal

end AccumulatorMachine
