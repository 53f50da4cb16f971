import AccumulatorMachine.Proofs.Source.ByteCursor

/-!
# What can be done with a cursor

A cursor may be used in any way: characters may be looked at, passed one by one or as long
as a test accepts them, and words may be taken, also where a string or a comment was left in
its middle, and also after a fault. Whatever is done, the cursor stays in its line and never
goes back, and a cursor that is a number of bytes answers the same (`performAll_inBytes`).

`Finds` lists what can be found where a word is looked for. Where nothing is found, nothing
is found again (`Finds.again`), and every word uses up characters, so that there are only so
many of them and then the end or a fault (`exists_words_to_end`). The tokens of a line are
read off these words.
-/

namespace AccumulatorMachine

/-- **What can be done with a cursor.** -/
inductive Operation where
  /-- Looking at the next character. -/
  | first
  /-- Passing the next character. -/
  | bump
  /-- Passing all characters in a row that are accepted. Whether one is may depend on those
  that were accepted before it. -/
  | eatWhile (accepts : List Char → Char → Bool)
  /-- Taking the next word. -/
  | nextLexeme

/-- What a cursor answers. -/
inductive Answer where
  /-- A character, or the end of the line. -/
  | character (found : Option Char)
  /-- Nothing. -/
  | nothing
  /-- A word, the end of all words, or a fault. -/
  | word (found : Except Fault (Option Lexeme))

namespace ByteCursor

/-- What an operation answers, and the cursor behind it. -/
def perform (cursor : ByteCursor) : Operation → Option (Answer × ByteCursor)
  | .first => cursor.first.map fun found => (.character found, cursor)
  | .bump => cursor.bump.map fun (found, next) => (.character found, next)
  | .eatWhile accepts => (cursor.eatWhile accepts []).map fun next => (.nothing, next)
  | .nextLexeme => cursor.nextLexeme.map fun (found, next) => (.word found, next)

/-- What operations answer one after the other, and the cursor behind them. -/
def performAll (cursor : ByteCursor) : List Operation → Option (List Answer × ByteCursor)
  | [] => some ([], cursor)
  | operation :: operations => do
    let (answer, next) ← cursor.perform operation
    let (answers, last) ← next.performAll operations
    some (answer :: answers, last)

end ByteCursor

namespace Cursor

/-- What an operation answers, and the cursor behind it. -/
def perform (cursor : Cursor) : Operation → Answer × Cursor
  | .first => (.character cursor.first, cursor)
  | .bump => (.character cursor.first, cursor.bump)
  | .eatWhile accepts => (.nothing, eatWhileSeen accepts [] cursor.rest cursor.offset)
  | .nextLexeme => (.word cursor.nextLexeme.1, cursor.nextLexeme.2)

/-- What operations answer one after the other, and the cursor behind them. -/
def performAll (cursor : Cursor) : List Operation → List Answer × Cursor
  | [] => ([], cursor)
  | operation :: operations =>
    ((cursor.perform operation).1 :: ((cursor.perform operation).2.performAll operations).1,
      ((cursor.perform operation).2.performAll operations).2)

/-! ## What is found -/

/-- **What is found** where a word is looked for. It is behind separators. -/
inductive Finds (cursor : Cursor) : Except Fault (Option Lexeme) → Cursor → Prop
  /-- There is nothing more, or only a comment. -/
  | nothing {skipped rest : List Char} (hahead : cursor.rest = skipped ++ rest)
    (hskipped : ∀ c ∈ skipped, isSeparator c = true)
    (hend : rest = [] ∨ ∃ comment, rest = ';' :: comment) :
    Finds cursor (.ok none) ⟨rest, cursor.offset + Text.byteLength skipped⟩
  /-- There is a word. -/
  | word {skipped word rest : List Char} (hahead : cursor.rest = skipped ++ (word ++ rest))
    (hskipped : ∀ c ∈ skipped, isSeparator c = true) (hword : IsWord word) :
    Finds cursor (.ok (some (Lexeme.ofWord word (cursor.offset + Text.byteLength skipped))))
      ⟨rest, cursor.offset + Text.byteLength skipped + Text.byteLength word⟩
  /-- There is a text that is never closed. -/
  | unclosed {skipped text : List Char} (hahead : cursor.rest = skipped ++ '"' :: text)
    (hskipped : ∀ c ∈ skipped, isSeparator c = true) :
    Finds cursor
      (.error (.unterminatedString
        ⟨cursor.offset + Text.byteLength skipped, Text.byteLength ('"' :: text)⟩))
      ⟨[], cursor.offset + Text.byteLength skipped + Text.byteLength ('"' :: text)⟩

/-- **Something of this is found**, whatever is ahead. -/
theorem finds_nextLexeme (cursor : Cursor) :
    cursor.Finds cursor.nextLexeme.1 cursor.nextLexeme.2 := by
  have hahead : cursor.rest = cursor.rest.takeWhile isSeparator ++
      (cursor.eatWhile isSeparator).rest := List.takeWhile_append_dropWhile.symm
  have hoffset : (cursor.eatWhile isSeparator).offset
      = cursor.offset + Text.byteLength (cursor.rest.takeWhile isSeparator) := rfl
  have hskipped : ∀ c ∈ cursor.rest.takeWhile isSeparator, isSeparator c = true :=
    fun c hmem => List.mem_takeWhile_imp hmem
  have hhead : ∀ c rest, (cursor.eatWhile isSeparator).rest = c :: rest →
      isSeparator c = false := fun c rest h => head_dropWhile_false h
  rw [nextLexeme_eatWhile]
  generalize cursor.eatWhile isSeparator = start at hahead hoffset hhead
  obtain ⟨ahead, offset⟩ := start
  dsimp only at hahead hoffset hhead
  subst hoffset
  rcases line_cases ahead with rfl | ⟨comment, rfl⟩ | ⟨c, text, hseparator, rfl⟩ |
    ⟨word, rest, hword, hend, rfl⟩ | ⟨text, hnone, rfl⟩
  · exact .nothing hahead hskipped (Or.inl rfl)
  · rw [nextLexeme_comment]
    exact .nothing hahead hskipped (Or.inr ⟨comment, rfl⟩)
  · exact absurd ((hhead c text rfl).symm.trans hseparator) (by decide)
  · rw [nextLexeme_of_word hword hend]
    exact .word hahead hskipped hword
  · rw [nextLexeme_unterminated hnone]
    exact .unclosed hahead hskipped

/-- A word that is taken is one of these. -/
theorem Finds.of_eq {cursor next : Cursor} {found : Except Fault (Option Lexeme)}
    (h : cursor.nextLexeme = (found, next)) : cursor.Finds found next := by
  have hfinds := cursor.finds_nextLexeme
  rwa [h] at hfinds

/-- The cursor goes on to where something is found. -/
theorem Finds.advances {cursor next : Cursor} {found : Except Fault (Option Lexeme)}
    (h : cursor.Finds found next) : cursor.Advances next := by
  cases h with
  | nothing hahead => exact ⟨_, hahead, rfl⟩
  | @word skipped word rest hahead =>
    exact ⟨skipped ++ word, by rw [hahead, List.append_assoc],
      by rw [Text.byteLength_append, Nat.add_assoc]⟩
  | @unclosed skipped text hahead =>
    exact ⟨skipped ++ '"' :: text, by rw [hahead, List.append_nil],
      by rw [Text.byteLength_append, Nat.add_assoc]⟩

/-- **Where nothing is found, nothing is found again**, and the cursor stays. -/
theorem Finds.again {cursor next : Cursor} (h : cursor.Finds (.ok none) next) :
    next.nextLexeme = (.ok none, next) := by
  cases h with
  | nothing _ _ hend =>
    rcases hend with rfl | ⟨comment, rfl⟩
    · exact nextLexeme_nil _
    · exact nextLexeme_comment _ _

/-- **Looking at characters changes nothing about that.** -/
theorem Finds.performAll_again {cursor next : Cursor} (h : cursor.Finds (.ok none) next)
    {calls : List Operation} (hcalls : ∀ call ∈ calls, call = .first ∨ call = .nextLexeme) :
    (next.performAll calls).2 = next ∧
      ∀ found, .word found ∈ (next.performAll calls).1 → found = .ok none := by
  have hagain := h.again
  induction calls with
  | nil => exact ⟨rfl, fun _ hmem => absurd hmem List.not_mem_nil⟩
  | cons call calls ih =>
    rw [List.forall_mem_cons] at hcalls
    obtain ⟨hnext, hfound⟩ := ih hcalls.2
    rcases hcalls.1 with rfl | rfl
    · refine ⟨hnext, fun found hmem => ?_⟩
      rcases List.mem_cons.mp hmem with hfirst | hrest
      · exact absurd hfirst (by simp [perform])
      · exact hfound found hrest
    · unfold performAll perform
      dsimp only
      rw [hagain]
      refine ⟨hnext, fun found hmem => ?_⟩
      rcases List.mem_cons.mp hmem with hfirst | hrest
      · exact Answer.word.inj hfirst
      · exact hfound found hrest

/-! ## Runs -/

/-- **An operation goes on**, or stays. -/
theorem Advances.perform (cursor : Cursor) (operation : Operation) :
    cursor.Advances (cursor.perform operation).2 := by
  cases operation with
  | first => exact refl cursor
  | bump => exact bump cursor
  | eatWhile accepts => exact eatWhileSeen accepts [] cursor.rest cursor.offset
  | nextLexeme => exact cursor.finds_nextLexeme.advances

/-- **Operations go on**, one after the other. -/
theorem Advances.performAll (cursor : Cursor) (operations : List Operation) :
    cursor.Advances (cursor.performAll operations).2 := by
  induction operations generalizing cursor with
  | nil => exact refl cursor
  | cons operation operations ih => exact (perform cursor operation).trans (ih _)

namespace LiesIn

variable {line : String} {base : Nat} {cursor : Cursor}

/-- **A line can be cut where a cursor lies in it.** -/
theorem isValid (h : cursor.LiesIn line base) :
    String.Pos.Raw.IsValid line ⟨cursor.offset - base⟩ := by
  obtain ⟨before, hline, hoffset⟩ := h
  rw [← String.Pos.Raw.isValid_eq_true_iff, Text.isValid_iff]
  refine ⟨before, cursor.rest, hline, ?_⟩
  rw [hoffset]
  exact (Nat.add_sub_cancel_left _ _).symm

/-- **An operation answers the same** if the cursor is a number of bytes. -/
theorem perform_inBytes (h : cursor.LiesIn line base) (operation : Operation) :
    (cursor.inBytes line base).perform operation
      = some ((cursor.perform operation).1, (cursor.perform operation).2.inBytes line base) := by
  unfold ByteCursor.perform
  cases operation with
  | first =>
    dsimp only
    rw [h.first_inBytes]
    rfl
  | bump =>
    dsimp only
    rw [h.bump_inBytes]
    rfl
  | eatWhile accepts =>
    dsimp only
    rw [h.eatWhile_inBytes]
    rfl
  | nextLexeme =>
    dsimp only
    rw [h.nextLexeme_inBytes]
    rfl

/-- **Operations answer the same** if the cursor is a number of bytes. -/
theorem performAll_inBytes (h : cursor.LiesIn line base) (operations : List Operation) :
    (cursor.inBytes line base).performAll operations
      = some ((cursor.performAll operations).1,
        (cursor.performAll operations).2.inBytes line base) := by
  induction operations generalizing cursor with
  | nil => rfl
  | cons operation operations ih =>
    unfold ByteCursor.performAll
    rw [h.perform_inBytes]
    have hnext : (cursor.perform operation).2.LiesIn line base :=
      Advances.trans h (.perform cursor operation)
    show (((cursor.perform operation).2.inBytes line base).performAll operations).bind _ = _
    rw [ih hnext]
    rfl

/-- **A word is the part of the line** that its span says, and the cursor goes on behind it. -/
theorem word_of_finds (h : cursor.LiesIn line base) {lexeme : Lexeme} {next : Cursor}
    (hfound : cursor.Finds (.ok (some lexeme)) next) :
    lexeme.text ≠ "" ∧ cursor.offset ≤ lexeme.span.start ∧ next.offset = lexeme.span.stop ∧
      Text.cut? line (lexeme.span.start - base) (lexeme.span.stop - base) = some lexeme.text := by
  cases hfound with
  | @word skipped word rest hahead _ hword =>
    have hstart : LiesIn line base ⟨word ++ rest, cursor.offset + Text.byteLength skipped⟩ :=
      Advances.trans h ⟨skipped, hahead, rfl⟩
    refine ⟨?_, Nat.le_add_right _ _, rfl, ?_⟩
    · intro hnil
      exact hword.ne_nil (by rw [← Lexeme.toList_text_ofWord word 0, show
        (Lexeme.ofWord word 0).text = "" from hnil]; rfl)
    · have hcut := hstart.cut?_eq rfl
      rw [← Nat.sub_add_comm hstart.base_le] at hcut
      exact hcut

/-- **A fault is a text that is never closed**, from the mark that opens it, behind separators,
to the end of the line, where the cursor stays. -/
theorem fault_of_finds (h : cursor.LiesIn line base) {fault : Fault} {next : Cursor}
    (hfound : cursor.Finds (.error fault) next) :
    ∃ span skipped text, fault = .unterminatedString span ∧
      cursor.rest = skipped ++ '"' :: text ∧ (∀ c ∈ skipped, isSeparator c = true) ∧
      span.start = cursor.offset + Text.byteLength skipped ∧
      Text.StandsAt line.toList (span.start - base) '"' ∧
      span.stop = base + line.utf8ByteSize ∧ next = ⟨[], span.stop⟩ := by
  cases hfound with
  | @unclosed skipped text hahead hskipped =>
    have hstart : LiesIn line base ⟨'"' :: text, cursor.offset + Text.byteLength skipped⟩ :=
      Advances.trans h ⟨skipped, hahead, rfl⟩
    refine ⟨_, skipped, text, rfl, hahead, hskipped, rfl, ?_, ?_, rfl⟩
    · obtain ⟨before, hline, hoffset⟩ := hstart
      refine ⟨before, text, hline, ?_⟩
      dsimp only at hoffset ⊢
      rw [hoffset]
      exact (Nat.add_sub_cancel_left _ _).symm
    · rw [hstart.size_eq, ← Nat.add_assoc, Nat.add_sub_cancel' hstart.base_le]
      rfl

end LiesIn

/-! ## All words of a line -/

/-- **There are only so many words, and then the end or a fault.** The tokens of the line are
what becomes of the words, if it is no fault that follows them. -/
theorem exists_words_to_end (cursor : Cursor) :
    ∃ (lexemes : List Lexeme) (last : Except Fault (Option Lexeme)),
      lexemes.length ≤ cursor.rest.length ∧
      (cursor.performAll (List.replicate (lexemes.length + 1) .nextLexeme)).1
        = lexemes.map (fun lexeme => .word (.ok (some lexeme))) ++ [.word last] ∧
      (∀ lexeme, last ≠ .ok (some lexeme)) ∧
      cursor.tokens
        = (lexemes.mapM Token.ofLexeme).bind fun tokens => last.map fun _ => tokens := by
  induction hlength : cursor.rest.length using Nat.strong_induction_on generalizing cursor with
  | _ length ih =>
    subst hlength
    cases hfound : cursor.nextLexeme with
    | mk found next =>
    rcases found with fault | _ | lexeme
    · refine ⟨[], .error fault, Nat.zero_le _, ?_, by simp, tokens_eq_error hfound⟩
      simp [performAll, perform, hfound]
    · refine ⟨[], .ok none, Nat.zero_le _, ?_, by simp, tokens_eq_nil hfound⟩
      simp [performAll, perform, hfound]
    · have hshorter := nextLexeme_shorter hfound
      obtain ⟨lexemes, last, hcount, hanswers, hlast, htokens⟩ := ih _ hshorter next rfl
      refine ⟨lexeme :: lexemes, last, Nat.lt_of_le_of_lt hcount hshorter, ?_, hlast, ?_⟩
      · rw [List.length_cons, List.replicate_succ, performAll]
        unfold perform
        dsimp only
        rw [hfound, hanswers]
        rfl
      · rw [tokens_eq_cons hfound, htokens, List.mapM_cons]
        cases Token.ofLexeme lexeme with
        | error fault => rfl
        | ok token =>
          show Except.map (token :: ·) (Except.bind _ _) = Except.bind (Except.bind _ _) _
          cases lexemes.mapM Token.ofLexeme with
          | error fault => rfl
          | ok tokens => cases last <;> rfl

/-! ## Any use of a cursor -/

/-- **A cursor survives any use.** Whatever is done with it in whatever line, a cursor that is a
number of bytes has an answer each time, and the same one; so the line is never cut inside a
character or behind its end, and it can be cut where the cursor stands in the end. The cursor
does not go back whatever is done with it then.

A word that is taken then is not empty, is the part of the line that its span says, is not
before the cursor, and the cursor stands behind it. A fault is a string that is never closed;
its span begins at the quotation mark that comes next behind separators and reaches to the end
of the line, where the cursor stands. Where there is no word, there is none again, however
often it is asked and whatever characters are looked at in between, and the cursor stays
there. And there are only so many words, which the tokens are read off. -/
theorem survives_operations (line : String) (base : Nat) (operations : List Operation) :
    let run := (ofLine line.toList base).performAll operations
    let cursor := run.2
    (ByteCursor.ofLine line base).performAll operations
      = some (run.1, cursor.inBytes line base) ∧
    base ≤ cursor.offset ∧ String.Pos.Raw.IsValid line ⟨cursor.offset - base⟩ ∧
    (∀ more, cursor.offset ≤ (cursor.performAll more).2.offset) ∧
    (∀ lexeme next, cursor.nextLexeme = (.ok (some lexeme), next) →
      lexeme.text ≠ "" ∧ cursor.offset ≤ lexeme.span.start ∧ next.offset = lexeme.span.stop ∧
        Text.cut? line (lexeme.span.start - base) (lexeme.span.stop - base) = some lexeme.text) ∧
    (∀ fault next, cursor.nextLexeme = (.error fault, next) →
      ∃ span skipped text, fault = .unterminatedString span ∧
        cursor.rest = skipped ++ '"' :: text ∧ (∀ c ∈ skipped, isSeparator c = true) ∧
        span.start = cursor.offset + Text.byteLength skipped ∧
        Text.StandsAt line.toList (span.start - base) '"' ∧
        span.stop = base + line.utf8ByteSize ∧ next = ⟨[], span.stop⟩) ∧
    (∀ next, cursor.nextLexeme = (.ok none, next) →
      ∀ calls, (∀ call ∈ calls, call = .first ∨ call = .nextLexeme) →
        (next.performAll calls).2 = next ∧
          ∀ found, .word found ∈ (next.performAll calls).1 → found = .ok none) ∧
    (∃ (lexemes : List Lexeme) (last : Except Fault (Option Lexeme)),
      lexemes.length ≤ cursor.rest.length ∧
      (cursor.performAll (List.replicate (lexemes.length + 1) .nextLexeme)).1
        = lexemes.map (fun lexeme => .word (.ok (some lexeme))) ++ [.word last] ∧
      (∀ lexeme, last ≠ .ok (some lexeme)) ∧
      cursor.tokens
        = (lexemes.mapM Token.ofLexeme).bind fun tokens => last.map fun _ => tokens) ∧
    ∀ accepts : Char → Bool,
      (cursor.perform (.eatWhile fun _ => accepts)).2 = cursor.eatWhile accepts := by
  intro run cursor
  have hstart : (ofLine line.toList base).LiesIn line base := Advances.refl _
  have hlies : cursor.LiesIn line base := Advances.performAll _ operations
  refine ⟨?_, hlies.base_le, hlies.isValid, fun more => (Advances.performAll cursor more).offset_le,
    fun lexeme next h => hlies.word_of_finds (.of_eq h),
    fun fault next h => hlies.fault_of_finds (.of_eq h),
    fun next h calls hcalls => (Finds.of_eq h).performAll_again hcalls,
    exists_words_to_end cursor, fun accepts => eatWhileSeen_eq accepts [] _ _⟩
  have hsame := hstart.performAll_inBytes operations
  rwa [show (ofLine line.toList base).inBytes line base = ByteCursor.ofLine line base by
    simp [inBytes, ofLine, ByteCursor.ofLine]] at hsame

/-- A string that is never closed, with a character of two bytes in it: it is a fault at first,
nothing is found behind the fault, and behind its mark there is a word. -/
theorem survives_operations_unclosed :
    let line := "DB \"\u00fc"
    let cursor := fun operations => ((ofLine line.toList 7).performAll operations).2
    (∃ span next, (cursor [.nextLexeme]).nextLexeme = (.error (.unterminatedString span), next) ∧
      Text.StandsAt line.toList (span.start - 7) '"' ∧ span.stop = 13 ∧ next = ⟨[], 13⟩) ∧
    (∃ next, (cursor [.nextLexeme, .nextLexeme]).nextLexeme = (.ok none, next) ∧
      (next.performAll [.nextLexeme, .first, .nextLexeme]).2 = next) ∧
    ∃ lexeme next, (cursor [.nextLexeme, .bump, .bump]).nextLexeme = (.ok (some lexeme), next) ∧
      lexeme.text = "\u00fc" ∧ Text.cut? line (lexeme.span.start - 7) (lexeme.span.stop - 7)
        = some lexeme.text := by
  intro line cursor
  have hfault : (cursor [.nextLexeme]).nextLexeme
      = (.error (.unterminatedString ⟨10, 3⟩), ⟨[], 13⟩) := by decide +kernel
  have hnone : (cursor [.nextLexeme, .nextLexeme]).nextLexeme = (.ok none, ⟨[], 13⟩) := by
    decide +kernel
  have hword : (cursor [.nextLexeme, .bump, .bump]).nextLexeme
      = (.ok (some ⟨"\u00fc", ⟨11, 2⟩⟩), ⟨[], 13⟩) := by decide +kernel
  refine ⟨?_, ?_, ?_⟩
  · obtain ⟨-, -, -, -, -, hreports, -⟩ := survives_operations line 7 [.nextLexeme]
    obtain ⟨span, -, -, hspan, -, -, -, hmark, hstop, hnext⟩ := hreports _ _ hfault
    obtain rfl := Fault.unterminatedString.inj hspan
    exact ⟨_, _, hfault, hmark, hstop, hnext⟩
  · obtain ⟨-, -, -, -, -, -, hagain, -⟩ :=
      survives_operations line 7 [.nextLexeme, .nextLexeme]
    exact ⟨_, hnone, (hagain _ hnone [.nextLexeme, .first, .nextLexeme] (by simp)).1⟩
  · obtain ⟨-, -, -, -, htaken, -⟩ := survives_operations line 7 [.nextLexeme, .bump, .bump]
    obtain ⟨-, -, -, hcut⟩ := htaken _ _ hword
    exact ⟨_, _, hword, rfl, hcut⟩

end Cursor

end AccumulatorMachine
