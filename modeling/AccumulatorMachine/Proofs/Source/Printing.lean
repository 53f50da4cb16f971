import AccumulatorMachine.Proofs.Source.Tiling

/-!
# Printing tokens

Rows of tokens are printed as they are written: one space between the tokens of a
row, one line feed between rows (`Source.printed`). What is printed is cut into the
same tokens again, in other places (`Source.tokens_printed`).

That rests on two facts. A lexeme is a word whatever stands around it, and a space
ends every word, so that the words of a printed row are the words that it was
printed from (`cuts_joinWith`). And no word holds a line feed, so that the printed
rows are the lines of the printed text.
-/

namespace AccumulatorMachine

/-! ## Words -/

/-- **Words with spaces between them** are the lexemes of the line that they make. -/
theorem cuts_joinWith {words : List String} (h : ∀ word ∈ words, IsWord word.toList)
    (offset : Nat) :
    ∃ lexemes, Cuts (Text.joinWith ' ' (words.map String.toList)) offset lexemes ∧
      lexemes.map Lexeme.text = words := by
  induction words generalizing offset with
  | nil => exact ⟨[], .done, rfl⟩
  | cons word words ih =>
    rw [List.forall_mem_cons] at h
    have htext : (Lexeme.ofWord word.toList offset).text = word := String.ofList_toList
    cases words with
    | nil =>
      have hend : EndsWord [] := fun c hc => absurd hc (by simp)
      have hcuts := Cuts.word h.1 hend (.done : Cuts [] (offset + _) [])
      rw [List.append_nil] at hcuts
      exact ⟨_, hcuts, by rw [List.map_singleton, htext]⟩
    | cons second others =>
      obtain ⟨lexemes, hcuts, htexts⟩ :=
        ih h.2 (offset + Text.byteLength word.toList + ' '.utf8Size)
      have hend : ∀ text, EndsWord (' ' :: text) := by
        intro text c hc
        obtain rfl := Option.some.inj hc
        decide
      exact ⟨_, .word h.1 (hend _) (.skip (by decide) hcuts), by rw [List.map_cons, htext, htexts]⟩

/-! ## Tokens -/

/-- **A token without its place.** -/
def Token.unplaced (token : Token) : Token :=
  { token with span := ⟨0, 0⟩ }

@[simp] theorem Token.kind_unplaced (token : Token) : token.unplaced.kind = token.kind := rfl

/-- **A token is the same wherever it is written.** -/
theorem Token.ofLexeme_of_text_eq {token : Token} (h : ofLexeme token.lexeme = .ok token)
    {lexeme : Lexeme} (htext : lexeme.text = token.literal) :
    ∃ other, ofLexeme lexeme = .ok other ∧ other.unplaced = token.unplaced := by
  obtain ⟨term, hspells, htoken⟩ := exists_spells h
  have hspells' : Spells lexeme.text.toList term := htext ▸ hspells
  refine ⟨term.token lexeme, hspells'.ofLexeme_eq, ?_⟩
  rw [htoken]
  unfold Term.token Token.unplaced
  rw [htext]
  rfl

/-- **A line that is cut into the texts of tokens** has these tokens. -/
theorem Cursor.exists_tokens_of_cuts {line : List Char} {offset : Nat} {lexemes : List Lexeme}
    {row : List Token} (hcuts : Cuts line offset lexemes)
    (htexts : lexemes.map Lexeme.text = row.map Token.literal)
    (h : ∀ token ∈ row, Token.ofLexeme token.lexeme = .ok token) :
    ∃ again, tokens ⟨line, offset⟩ = .ok again ∧
      again.map Token.unplaced = row.map Token.unplaced := by
  have hsame : List.Forall₂ (fun token lexeme => token.literal = lexeme.text) row lexemes :=
    List.forall₂_map_left_iff.mp (eq_map_iff_forall₂.mp htexts.symm)
  obtain ⟨again, hunplaced, hagain⟩ := exists_forall₂_between
    (S := fun token other => token.unplaced = other.unplaced)
    (T := fun lexeme token => Token.ofLexeme lexeme = .ok token)
    (forall₂_imp_of_mem hsame fun token hmem lexeme htext =>
      Token.ofLexeme_of_text_eq (h token hmem) htext.symm)
    fun token lexeme ⟨other, hother, hsame⟩ => ⟨other, hsame.symm, hother⟩
  exact ⟨again, tokens_eq_ok_iff.mpr ⟨lexemes, hcuts, hagain⟩,
    (map_eq_of_forall₂ hunplaced fun token other hother => hother).symm⟩

namespace Source

/-- A row of tokens as it is printed. -/
def printedRow (row : List Token) : String :=
  " ".intercalate (row.map Token.literal)

/-- **Rows of tokens as a source text.** -/
def printed (rows : List (List Token)) : String :=
  "\n".intercalate (rows.map printedRow)

/-- The characters of a printed row. -/
theorem toList_printedRow (row : List Token) :
    (printedRow row).toList = Text.joinWith ' ' ((row.map Token.literal).map String.toList) :=
  Text.toList_intercalate ' ' _

/-- A printed row has the tokens of the row. -/
theorem tokens_printedRow {row : List Token} (h : ∀ token ∈ row, token.Written) (offset : Nat) :
    ∃ again, Cursor.tokens ⟨(printedRow row).toList, offset⟩ = .ok again ∧
      again.map Token.unplaced = row.map Token.unplaced := by
  have hwords : ∀ word ∈ row.map Token.literal, IsWord word.toList :=
    List.forall_mem_map.mpr fun token hmem => (h token hmem).word
  obtain ⟨lexemes, hcuts, htexts⟩ := cuts_joinWith hwords offset
  rw [← toList_printedRow] at hcuts
  exact Cursor.exists_tokens_of_cuts hcuts htexts fun token hmem => (h token hmem).spelled

/-- A printed row stays on its line. -/
theorem feed_notMem_printedRow {row : List Token} (h : ∀ token ∈ row, token.Written) :
    '\n' ∉ (printedRow row).toList := by
  rw [toList_printedRow]
  intro hfeed
  rcases Text.mem_joinWith hfeed with hspace | ⟨text, htext, hmem⟩
  · exact absurd hspace (by decide)
  · obtain ⟨literal, hliteral, rfl⟩ := List.mem_map.mp htext
    obtain ⟨token, htoken, rfl⟩ := List.mem_map.mp hliteral
    exact (h token htoken).line hmem

/-- Printed rows have the tokens of the rows. -/
theorem tokensOfLines_printedRow {rows : List (List Token)}
    (h : ∀ row ∈ rows, row ≠ [] ∧ ∀ token ∈ row, token.Written) (offset : Nat) :
    ∃ again, tokensOfLines (rows.map fun row => (printedRow row).toList) offset = .ok again ∧
      again.map (List.map Token.unplaced) = rows.map (List.map Token.unplaced) := by
  induction rows generalizing offset with
  | nil => exact ⟨[], rfl, rfl⟩
  | cons row rows ih =>
    rw [List.forall_mem_cons] at h
    obtain ⟨first, hfirst, hsame⟩ := tokens_printedRow h.1.2 offset
    obtain ⟨others, hothers, hrest⟩ := ih h.2 (offset + Text.byteLength (printedRow row).toList + 1)
    refine ⟨_, tokensOfLines_cons_eq_ok_iff.mpr ⟨first, others, hfirst, hothers, rfl⟩, ?_⟩
    -- the row has tokens, and so its line has
    cases first with
    | nil => exact absurd (List.map_eq_nil_iff.mp hsame.symm) h.1.1
    | cons token first =>
      rw [List.map_cons (l := rows), ← hsame, ← hrest]
      rfl

/-- **Cutting undoes printing.** -/
theorem tokens_printed {source : String} {rows : List (List Token)}
    (h : tokens source = .ok rows) :
    ∃ again, tokens (printed rows) = .ok again ∧
      again.map (List.map Token.unplaced) = rows.map (List.map Token.unplaced) := by
  have hwritten := written_of_tokens h
  cases rows with
  | nil => exact ⟨[], by decide +kernel, rfl⟩
  | cons row rows =>
    obtain ⟨again, hagain, hsame⟩ := tokensOfLines_printedRow hwritten 0
    have htext : (printed (row :: rows)).toList
        = Text.joinWith '\n' ((row :: rows).map fun row => (printedRow row).toList) := by
      rw [show (printed (row :: rows)).toList = _ from Text.toList_intercalate '\n' _, List.map_map]
      rfl
    have hlines : Text.splitOn '\n' (printed (row :: rows)).toList
        = (row :: rows).map fun row => (printedRow row).toList := by
      rw [htext]
      refine Text.splitOn_joinWith (List.cons_ne_nil _ _) (List.forall_mem_map.mpr ?_)
      exact fun row hmem => feed_notMem_printedRow (hwritten row hmem).2
    refine ⟨again, ?_, hsame⟩
    rw [tokens, hlines]
    exact hagain

end Source

end AccumulatorMachine
