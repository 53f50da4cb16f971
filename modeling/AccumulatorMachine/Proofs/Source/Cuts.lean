import AccumulatorMachine.Proofs.Lists
import AccumulatorMachine.Proofs.Source.Patterns
import AccumulatorMachine.Source.Lines

/-!
# How a line is cut

`Cuts` says which lexemes a line is made of and where they stand, one character
or one word at a time. `IsWord` says what a word is: characters that go on with a
lexeme, or a text in quotation marks with such characters glued to it.

The cursor looks ahead instead: it skips all separators at once and searches for
the closing mark. `Cursor.nextLexeme_of_word` and its companions say what it
finds at each beginning that a line can have (`line_cases`).

Not every line can be cut, but every line has words, some of which may be no tokens
(`Words`). The tokens of a line are what its words are, up to the first failure
(`Cursor.tokens_eq_mapM`), so that they are those of the lexemes that it is cut
into, if it can be (`Cursor.tokens_eq_ok_iff`).
-/

namespace AccumulatorMachine

/-! ## The grammar of lines -/

/-- **A word of a line.** -/
inductive IsWord : List Char → Prop
  /-- Characters that go on with a lexeme, the first one not a quotation mark. -/
  | plain {first : Char} {rest : List Char} (hquote : first ≠ '"')
    (hall : ∀ c ∈ first :: rest, continuesLexeme c = true) : IsWord (first :: rest)
  /-- A text in quotation marks and whatever is glued to it. -/
  | quoted {body glued : List Char} (hbody : Enclosed (fun _ => True) body)
    (hglued : ∀ c ∈ glued, continuesLexeme c = true) : IsWord ('"' :: (body ++ '"' :: glued))

/-- A word can end in front of this text: it goes on with no lexeme. -/
def EndsWord (text : List Char) : Prop :=
  ∀ c ∈ text.head?, continuesLexeme c = false

/-- The lexeme that a word is at an offset. -/
def Lexeme.ofWord (word : List Char) (offset : Nat) : Lexeme :=
  ⟨String.ofList word, ⟨offset, Text.byteLength word⟩⟩

/-- **The lexemes of a line** that begins at an offset. -/
inductive Cuts : List Char → Nat → List Lexeme → Prop
  /-- No text has no lexemes. -/
  | done {offset : Nat} : Cuts [] offset []
  /-- A comment has none either. -/
  | comment {text : List Char} {offset : Nat} : Cuts (';' :: text) offset []
  /-- A separator is passed over. -/
  | skip {c : Char} {text : List Char} {offset : Nat} {lexemes : List Lexeme}
    (hseparator : isSeparator c = true) (htext : Cuts text (offset + c.utf8Size) lexemes) :
    Cuts (c :: text) offset lexemes
  /-- A word is a lexeme. -/
  | word {word text : List Char} {offset : Nat} {lexemes : List Lexeme} (hword : IsWord word)
    (hend : EndsWord text) (htext : Cuts text (offset + Text.byteLength word) lexemes) :
    Cuts (word ++ text) offset (Lexeme.ofWord word offset :: lexemes)

/-! ## Quotation marks -/

/-- A plain character does not close a text. -/
theorem splitAtClosingMark_plain {c : Char} {text : List Char} (hquote : c ≠ '"')
    (hbackslash : c ≠ '\\') :
    splitAtClosingMark (c :: text)
      = (splitAtClosingMark text).map fun parts => (c :: parts.1, parts.2) := by
  rw [splitAtClosingMark.eq_def]
  split <;> simp_all

/-- **A text is split at the first mark that encloses it.** -/
theorem splitAtClosingMark_eq_some_iff {text inside after : List Char} :
    splitAtClosingMark text = some (inside, after) ↔
      ∃ body, Enclosed (fun _ => True) body ∧ inside = body ++ ['"'] ∧
        text = body ++ '"' :: after := by
  constructor
  · intro h
    fun_induction splitAtClosingMark text generalizing inside after with
    | case1 => exact absurd h (by simp)
    | case2 rest =>
      obtain ⟨rfl, rfl⟩ := Prod.mk.inj (Option.some.inj h)
      exact ⟨[], .nil, rfl, rfl⟩
    | case3 c rest ih =>
      obtain ⟨⟨inner, behind⟩, hinner, heq⟩ := Option.map_eq_some_iff.mp h
      obtain ⟨rfl, rfl⟩ := Prod.mk.inj heq
      obtain ⟨body, hbody, rfl, rfl⟩ := ih hinner
      exact ⟨'\\' :: c :: body, .pair trivial hbody, rfl, rfl⟩
    | case4 => exact absurd h (by simp)
    | case5 c rest hquote hbackslash hend ih =>
      obtain ⟨⟨inner, behind⟩, hinner, heq⟩ := Option.map_eq_some_iff.mp h
      obtain ⟨rfl, rfl⟩ := Prod.mk.inj heq
      obtain ⟨body, hbody, rfl, rfl⟩ := ih hinner
      obtain ⟨d, others, hcons⟩ := List.exists_cons_of_ne_nil
        (List.append_ne_nil_of_right_ne_nil body (List.cons_ne_nil '"' behind))
      exact ⟨c :: body, .plain hquote (fun hc => hbackslash d others hc hcons) hbody, rfl, rfl⟩
  · rintro ⟨body, hbody, rfl, rfl⟩
    induction hbody with
    | nil => rfl
    | plain hquote hbackslash _ ih =>
      rw [List.cons_append, splitAtClosingMark_plain hquote hbackslash, ih]
      rfl
    | pair _ _ ih =>
      rw [List.cons_append, List.cons_append, splitAtClosingMark, ih]
      rfl

/-! ## What the cursor finds -/

/-- A word ends where characters that go on with a lexeme do. -/
theorem EndsWord.takeWhile_append {word text : List Char} (h : EndsWord text)
    (hword : ∀ c ∈ word, continuesLexeme c = true) :
    (word ++ text).takeWhile continuesLexeme = word ∧
      (word ++ text).dropWhile continuesLexeme = text := by
  rw [List.takeWhile_append_of_pos hword, List.dropWhile_append_of_pos hword]
  cases text with
  | nil => exact ⟨List.append_nil word, rfl⟩
  | cons c rest =>
    have hc : ¬ continuesLexeme c = true := by rw [h c rfl]; decide
    rw [List.takeWhile_cons_of_neg hc, List.dropWhile_cons_of_neg hc]
    exact ⟨List.append_nil word, rfl⟩

/-- What goes on with a lexeme separates none. -/
theorem isSeparator_of_continuesLexeme {c : Char} (h : continuesLexeme c = true) :
    isSeparator c = false := by
  unfold continuesLexeme at h
  rw [Bool.and_eq_true, Bool.not_eq_true'] at h
  exact h.1

namespace Cursor

/-- Where no separator stands, none is skipped. -/
theorem eatWhile_eq_self {accepts : Char → Bool} {c : Char} {rest : List Char} {offset : Nat}
    (h : accepts c = false) : eatWhile accepts ⟨c :: rest, offset⟩ = ⟨c :: rest, offset⟩ := by
  have hc : ¬ accepts c = true := by rw [h]; decide
  unfold eatWhile
  rw [List.dropWhile_cons_of_neg hc, List.takeWhile_cons_of_neg hc]
  rfl

/-- A line that is used up has no lexeme. -/
theorem nextLexeme_nil (offset : Nat) : nextLexeme ⟨[], offset⟩ = (.ok none, ⟨[], offset⟩) := rfl

/-- A comment has no lexeme. -/
theorem nextLexeme_comment (text : List Char) (offset : Nat) :
    nextLexeme ⟨';' :: text, offset⟩ = (.ok none, ⟨';' :: text, offset⟩) := by
  unfold nextLexeme
  rw [eatWhile_eq_self (by decide)]
  rfl

/-- Behind a quotation mark the mark that closes it is looked for. -/
theorem nextLexeme_quote (text : List Char) (offset : Nat) :
    nextLexeme ⟨'"' :: text, offset⟩ =
      match splitAtClosingMark text with
      | none =>
        (.error (.unterminatedString ⟨offset, Text.byteLength ('"' :: text)⟩),
          ⟨[], offset + Text.byteLength ('"' :: text)⟩)
      | some (inside, after) =>
        let taken := ('"' :: inside) ++ after.takeWhile continuesLexeme
        (.ok (some (Lexeme.ofWord taken offset)),
          ⟨after.dropWhile continuesLexeme, offset + Text.byteLength taken⟩) := by
  unfold nextLexeme
  rw [eatWhile_eq_self (by decide)]
  rfl

/-- **A separator is skipped.** -/
theorem nextLexeme_skip {c : Char} (h : isSeparator c = true) (text : List Char) (offset : Nat) :
    nextLexeme ⟨c :: text, offset⟩ = nextLexeme ⟨text, offset + c.utf8Size⟩ := by
  have hskip : eatWhile isSeparator ⟨c :: text, offset⟩
      = eatWhile isSeparator ⟨text, offset + c.utf8Size⟩ := by
    unfold eatWhile
    dsimp only
    rw [List.dropWhile_cons_of_pos h, List.takeWhile_cons_of_pos h, Text.byteLength_cons,
      Nat.add_assoc]
  unfold nextLexeme
  rw [hskip]

/-- **A word is taken** up to where it ends. -/
theorem nextLexeme_of_word {word text : List Char} (hword : IsWord word) (hend : EndsWord text)
    (offset : Nat) :
    nextLexeme ⟨word ++ text, offset⟩
      = (.ok (some (Lexeme.ofWord word offset)), ⟨text, offset + Text.byteLength word⟩) := by
  cases hword with
  | @plain first rest hquote hall =>
    have hfirst : continuesLexeme first = true := hall first List.mem_cons_self
    have hcomment : first ≠ ';' := by
      rintro rfl
      exact absurd hfirst (by decide)
    obtain ⟨htake, hdrop⟩ := hend.takeWhile_append hall
    rw [List.cons_append] at htake hdrop ⊢
    unfold nextLexeme
    rw [eatWhile_eq_self (isSeparator_of_continuesLexeme hfirst)]
    dsimp only
    split
    · next hnil => exact absurd hnil (List.cons_ne_nil _ _)
    · next hsemicolon => exact absurd (List.cons.inj hsemicolon).1 hcomment
    · next hmark => exact absurd (List.cons.inj hmark).1 hquote
    · rw [htake, hdrop]
      rfl
  | @quoted body glued hbody hglued =>
    obtain ⟨htake, hdrop⟩ := hend.takeWhile_append hglued
    have hsplit : splitAtClosingMark (body ++ '"' :: (glued ++ text))
        = some (body ++ ['"'], glued ++ text) :=
      splitAtClosingMark_eq_some_iff.mpr ⟨body, hbody, rfl, rfl⟩
    rw [List.cons_append, List.append_assoc, List.cons_append, nextLexeme_quote, hsplit]
    dsimp only
    rw [htake, hdrop, List.cons_append, List.append_assoc]
    rfl

/-- A quotation mark that is never closed is a fault. -/
theorem nextLexeme_unterminated {text : List Char} (h : splitAtClosingMark text = none)
    (offset : Nat) :
    nextLexeme ⟨'"' :: text, offset⟩
      = (.error (.unterminatedString ⟨offset, Text.byteLength ('"' :: text)⟩),
        ⟨[], offset + Text.byteLength ('"' :: text)⟩) := by
  rw [nextLexeme_quote, h]

end Cursor

/-- **How a line can begin.** -/
theorem line_cases (line : List Char) :
    line = [] ∨ (∃ text, line = ';' :: text) ∨
      (∃ c text, isSeparator c = true ∧ line = c :: text) ∨
      (∃ word text, IsWord word ∧ EndsWord text ∧ line = word ++ text) ∨
      ∃ text, splitAtClosingMark text = none ∧ line = '"' :: text := by
  have hends : ∀ text : List Char, EndsWord (text.dropWhile continuesLexeme) := by
    intro text c hc
    obtain ⟨rest, hrest⟩ := List.head?_eq_some_iff.mp hc
    exact Cursor.head_dropWhile_false hrest
  have htakes : ∀ text : List Char, ∀ c ∈ text.takeWhile continuesLexeme,
      continuesLexeme c = true := fun text => List.all_eq_true.mp List.all_takeWhile
  rcases line with _ | ⟨c, rest⟩
  · exact Or.inl rfl
  · by_cases hcomment : c = ';'
    · exact Or.inr (Or.inl ⟨rest, hcomment ▸ rfl⟩)
    by_cases hseparator : isSeparator c = true
    · exact Or.inr (Or.inr (Or.inl ⟨c, rest, hseparator, rfl⟩))
    by_cases hquote : c = '"'
    · subst hquote
      cases hsplit : splitAtClosingMark rest with
      | none => exact Or.inr (Or.inr (Or.inr (Or.inr ⟨rest, hsplit, rfl⟩)))
      | some parts =>
        obtain ⟨body, hbody, -, hrest⟩ := splitAtClosingMark_eq_some_iff.mp hsplit
        refine Or.inr (Or.inr (Or.inr (Or.inl ⟨_, _, .quoted hbody (htakes parts.2),
          hends parts.2, ?_⟩)))
        rw [List.cons_append, List.append_assoc, List.cons_append,
          List.takeWhile_append_dropWhile, hrest]
    · have hc : continuesLexeme c = true := by
        simp [continuesLexeme, hseparator, hcomment]
      have htaken : (c :: rest).takeWhile continuesLexeme
          = c :: rest.takeWhile continuesLexeme := List.takeWhile_cons_of_pos hc
      refine Or.inr (Or.inr (Or.inr (Or.inl ⟨_, _, .plain hquote (htaken ▸ htakes (c :: rest)),
        hends rest, ?_⟩)))
      rw [List.cons_append, List.takeWhile_append_dropWhile]

/-! ## The tokens of a line -/

namespace Cursor

/-- Where there is no lexeme, there are no tokens. -/
theorem tokens_eq_nil {cursor next : Cursor} (h : cursor.nextLexeme = (.ok none, next)) :
    cursor.tokens = .ok [] := by
  rw [tokens]
  split
  · next hfound => exact absurd (hfound.symm.trans h) (by simp)
  · rfl
  · next hfound => exact absurd (hfound.symm.trans h) (by simp)

/-- A fault in a lexeme is a fault of the line. -/
theorem tokens_eq_error {cursor next : Cursor} {fault : Fault}
    (h : cursor.nextLexeme = (.error fault, next)) : cursor.tokens = .error fault := by
  rw [tokens]
  split
  · next hfound =>
    have heq := hfound.symm.trans h
    simp only [Prod.mk.injEq, Except.error.injEq] at heq
    rw [heq.1]
  · next hfound => exact absurd (hfound.symm.trans h) (by simp)
  · next hfound => exact absurd (hfound.symm.trans h) (by simp)

/-- **A lexeme gives the first token**, if it is one. -/
theorem tokens_eq_cons {cursor next : Cursor} {lexeme : Lexeme}
    (h : cursor.nextLexeme = (.ok (some lexeme), next)) :
    cursor.tokens =
      match Token.ofLexeme lexeme with
      | .error fault => .error fault
      | .ok token => next.tokens.map (token :: ·) := by
  rw [tokens]
  split
  · next hfound => exact absurd (hfound.symm.trans h) (by simp)
  · next hfound => exact absurd (hfound.symm.trans h) (by simp)
  · next found behind hfound =>
    have heq := hfound.symm.trans h
    simp only [Prod.mk.injEq, Except.ok.injEq, Option.some.injEq] at heq
    obtain ⟨rfl, rfl⟩ := heq
    rfl

/-- Separators make no difference to the tokens. -/
theorem tokens_skip {c : Char} (h : isSeparator c = true) (text : List Char) (offset : Nat) :
    tokens ⟨c :: text, offset⟩ = tokens ⟨text, offset + c.utf8Size⟩ := by
  have hskip := nextLexeme_skip h text offset
  -- whatever is found behind the separator is found from before it
  cases hnext : nextLexeme ⟨text, offset + c.utf8Size⟩ with
  | mk found next =>
    rw [hnext] at hskip
    rcases found with fault | _ | lexeme
    · rw [tokens_eq_error hskip, tokens_eq_error hnext]
    · rw [tokens_eq_nil hskip, tokens_eq_nil hnext]
    · rw [tokens_eq_cons hskip, tokens_eq_cons hnext]

end Cursor

/-! ## The words of a line -/

/-- **What the words of a line are**, if the line begins at an offset: tokens, and the
faults of words that are none. A text that is never closed is the last word. -/
inductive Words : List Char → Nat → List (Except Fault Token) → Prop
  /-- No text has no words. -/
  | done {offset : Nat} : Words [] offset []
  /-- A comment has none either. -/
  | comment {text : List Char} {offset : Nat} : Words (';' :: text) offset []
  /-- A separator is passed over. -/
  | skip {c : Char} {text : List Char} {offset : Nat} {words : List (Except Fault Token)}
    (hseparator : isSeparator c = true) (htext : Words text (offset + c.utf8Size) words) :
    Words (c :: text) offset words
  /-- A word is a token or fails to be one. -/
  | word {word text : List Char} {offset : Nat} {words : List (Except Fault Token)}
    (hword : IsWord word) (hend : EndsWord text)
    (htext : Words text (offset + Text.byteLength word) words) :
    Words (word ++ text) offset (Token.ofLexeme (Lexeme.ofWord word offset) :: words)
  /-- Behind a quotation mark that is never closed nothing more is found. -/
  | unclosed {text : List Char} {offset : Nat} (hnone : splitAtClosingMark text = none) :
    Words ('"' :: text) offset
      [.error (.unterminatedString ⟨offset, Text.byteLength ('"' :: text)⟩)]

/-- **Every line has words.** -/
theorem exists_words (line : List Char) (offset : Nat) : ∃ words, Words line offset words := by
  -- on the length of the line, since a word takes several characters at once
  induction hlength : line.length using Nat.strong_induction_on generalizing line offset with
  | _ length ih =>
  rcases line_cases line with rfl | ⟨text, rfl⟩ | ⟨c, text, hc, rfl⟩ |
    ⟨word, text, hword, hend, rfl⟩ | ⟨text, hnone, rfl⟩
  · exact ⟨[], .done⟩
  · exact ⟨[], .comment⟩
  · obtain ⟨words, htext⟩ := ih text.length (by rw [← hlength]; exact Nat.lt_succ_self _) text
      (offset + c.utf8Size) rfl
    exact ⟨words, .skip hc htext⟩
  · have hpos : 0 < word.length := by cases hword <;> exact Nat.succ_pos _
    obtain ⟨words, htext⟩ := ih text.length (by rw [← hlength, List.length_append]; omega) text
      (offset + Text.byteLength word) rfl
    exact ⟨_, .word hword hend htext⟩
  · exact ⟨_, .unclosed hnone⟩

namespace Cursor

/-- **The tokens of a line** are what its words are, up to the first that is none. -/
theorem tokens_eq_mapM {line : List Char} {offset : Nat} {words : List (Except Fault Token)}
    (h : Words line offset words) : tokens ⟨line, offset⟩ = words.mapM id := by
  induction h with
  | done => exact tokens_eq_nil (nextLexeme_nil _)
  | comment => exact tokens_eq_nil (nextLexeme_comment _ _)
  | skip hseparator _ ih => rw [tokens_skip hseparator, ih]
  | word hword hend _ ih =>
    rw [tokens_eq_cons (nextLexeme_of_word hword hend _), List.mapM_cons, ih, id]
    cases Token.ofLexeme _ with
    | error fault => rfl
    | ok token => rfl
  | unclosed hnone => exact tokens_eq_error (nextLexeme_unterminated hnone _)

/-- **A line has no tokens** because of the first of its words that is none. -/
theorem tokens_eq_error_iff {line : List Char} {offset : Nat} {words : List (Except Fault Token)}
    (h : Words line offset words) {fault : Fault} :
    tokens ⟨line, offset⟩ = .error fault ↔ IsFirstFailure fault words := by
  rw [tokens_eq_mapM h, mapM_eq_error_iff, List.map_id]

/-- **A line has tokens** exactly if all its words are tokens. -/
theorem exists_tokens_iff {line : List Char} {offset : Nat} {words : List (Except Fault Token)}
    (h : Words line offset words) :
    (∃ found, tokens ⟨line, offset⟩ = .ok found) ↔ ∀ word ∈ words, ∃ token, word = .ok token := by
  simp only [tokens_eq_mapM h, mapM_eq_ok_iff]
  exact exists_forall₂_iff

/-- The words of a line that is cut into lexemes are these. -/
theorem words_of_cuts {line : List Char} {offset : Nat} {lexemes : List Lexeme}
    (h : Cuts line offset lexemes) : Words line offset (lexemes.map Token.ofLexeme) := by
  induction h with
  | done => exact .done
  | comment => exact .comment
  | skip hseparator _ ih => exact .skip hseparator ih
  | word hword hend _ ih => exact .word hword hend ih

/-- **A line whose words are all tokens can be cut.** -/
theorem exists_cuts {line : List Char} {offset : Nat} {words : List (Except Fault Token)}
    (h : Words line offset words) (hall : ∀ word ∈ words, ∃ token, word = .ok token) :
    ∃ lexemes, Cuts line offset lexemes ∧ words = lexemes.map Token.ofLexeme := by
  induction h with
  | done => exact ⟨[], .done, rfl⟩
  | comment => exact ⟨[], .comment, rfl⟩
  | skip hseparator _ ih =>
    obtain ⟨lexemes, htext, rfl⟩ := ih hall
    exact ⟨lexemes, .skip hseparator htext, rfl⟩
  | word hword hend _ ih =>
    obtain ⟨lexemes, htext, rfl⟩ := ih (List.forall_mem_cons.mp hall).2
    exact ⟨_, .word hword hend htext, rfl⟩
  | unclosed hnone =>
    obtain ⟨token, htoken⟩ := hall _ List.mem_cons_self
    exact absurd htoken (by simp)

/-- **The tokens of a line** are those of the lexemes that it is cut into. -/
theorem tokens_eq_ok_iff {line : List Char} {offset : Nat} {found : List Token} :
    tokens ⟨line, offset⟩ = .ok found ↔
      ∃ lexemes, Cuts line offset lexemes ∧
        List.Forall₂ (fun lexeme token => Token.ofLexeme lexeme = .ok token) lexemes found := by
  constructor
  · intro h
    obtain ⟨words, hwords⟩ := exists_words line offset
    obtain ⟨lexemes, hcuts, rfl⟩ := exists_cuts hwords ((exists_tokens_iff hwords).mp ⟨found, h⟩)
    rw [tokens_eq_mapM hwords, mapM_eq_ok_iff] at h
    exact ⟨lexemes, hcuts, List.forall₂_map_left_iff.mp h⟩
  · rintro ⟨lexemes, hcuts, hall⟩
    rw [tokens_eq_mapM (words_of_cuts hcuts)]
    exact mapM_eq_ok_iff.mpr (List.forall₂_map_left_iff.mpr hall)

end Cursor

end AccumulatorMachine
