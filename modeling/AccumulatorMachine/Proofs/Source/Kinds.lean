import AccumulatorMachine.Proofs.Source.Patterns

/-!
# Which kind a word is

A word is read as the kind whose pattern it matches. What each kind of token is
written as, and with which name, value or bytes, is what the grammar says
(`Token.ofLexeme_eq_token_iff`).

Behind its pattern a label, an address or an identifier cannot fail. A number can,
in two ways that are told apart by its leading digits, and a string can, by the
first of its characters that is no byte. `Token.ofLexeme_recognises` puts together
what every word is or why it is nothing.
-/

namespace AccumulatorMachine

/-! ## What each kind of token is written as -/

/-- A token tells the term that it was made from. -/
theorem Term.token_injective {term other : Term} {lexeme : Lexeme}
    (h : term.token lexeme = other.token lexeme) : term = other := by
  obtain ⟨hkind, -, hvalue, -⟩ := Token.mk.inj h
  cases term <;> cases other <;> simp_all [kind, value]

/-- **A lexeme is the token of a term** exactly if it spells the term. -/
theorem Token.ofLexeme_eq_token_iff {lexeme : Lexeme} {term : Term} :
    ofLexeme lexeme = .ok (term.token lexeme) ↔ Spells lexeme.text.toList term := by
  rw [ofLexeme_eq_ok_iff]
  constructor
  · rintro ⟨other, hspells, htoken⟩
    rw [Term.token_injective htoken]
    exact hspells
  · exact fun hspells => ⟨term, hspells, rfl⟩

section Spelled

variable {text : List Char}

/-- A label is written as its name and a colon. -/
theorem spells_label_iff {name : String} :
    Spells text (.label name) ↔ text = name.toList ++ [':'] ∧ IsName name.toList := by
  constructor
  · rintro (hname | _)
    rw [String.toList_ofList]
    exact ⟨rfl, hname⟩
  · rintro ⟨rfl, hname⟩
    have hspells := Spells.label hname
    rwa [String.ofList_toList] at hspells

/-- An address is written as its name in brackets. -/
theorem spells_address_iff {name : String} :
    Spells text (.address name) ↔ text = '[' :: (name.toList ++ [']']) ∧ IsName name.toList := by
  constructor
  · rintro (_ | hname)
    rw [String.toList_ofList]
    exact ⟨rfl, hname⟩
  · rintro ⟨rfl, hname⟩
    have hspells := Spells.address hname
    rwa [String.ofList_toList] at hspells

/-- An identifier is written as its name. -/
theorem spells_identifier_iff {name : String} :
    Spells text (.identifier name) ↔ text = name.toList ∧ IsName name.toList := by
  constructor
  · intro h
    cases h with
    | identifier hname =>
      rw [String.toList_ofList]
      exact ⟨rfl, hname⟩
  · rintro ⟨rfl, hname⟩
    have hspells := Spells.identifier hname
    rwa [String.ofList_toList] at hspells

/-- A number is written as digits that have its value, with any number of zeros in front. -/
theorem spells_number_iff {value : UInt8} :
    Spells text (.number value) ↔
      text ≠ [] ∧ (∀ c ∈ text, c.isDigit = true) ∧ Text.numeralValue text = value.toNat := by
  constructor
  · intro h
    cases h with
    | number hdigits hall hbyte =>
      refine ⟨hdigits, hall, ?_⟩
      rw [UInt8.toNat_ofNat', Nat.mod_eq_of_lt (Nat.lt_succ_of_le hbyte)]
  · rintro ⟨hdigits, hall, hvalue⟩
    have hspells := Spells.number hdigits hall (hvalue ▸ Nat.le_of_lt_succ value.toNat_lt)
    rwa [hvalue, UInt8.ofNat_toNat] at hspells

/-- A string is written as a text in quotation marks whose characters, once it is
unescaped, are its bytes. -/
theorem spells_string_iff {values : List UInt8} :
    Spells text (.string values) ↔
      ∃ body, text = '"' :: (body ++ ['"']) ∧ Enclosed (· ≠ '\n') body ∧
        (Spelling.unescape body).map Char.toNat = values.map UInt8.toNat := by
  constructor
  · intro h
    cases h with
    | @string body hbody hbytes =>
      refine ⟨body, rfl, hbody, ?_⟩
      rw [List.map_map]
      refine List.map_congr_left fun c hc => ?_
      show c.toNat = (UInt8.ofNat c.toNat).toNat
      rw [UInt8.toNat_ofNat', Nat.mod_eq_of_lt (Nat.lt_succ_of_le (hbytes c hc))]
  · rintro ⟨body, rfl, hbody, hvalues⟩
    have hbytes : ∀ c ∈ Spelling.unescape body, c.toNat ≤ 255 := by
      intro c hc
      have hmem := hvalues ▸ List.mem_map_of_mem (f := Char.toNat) hc
      obtain ⟨value, -, hvalue⟩ := List.mem_map.mp hmem
      rw [← hvalue]
      exact Nat.le_of_lt_succ value.toNat_lt
    have hsame : (Spelling.unescape body).map (fun c => UInt8.ofNat c.toNat) = values := by
      have hmap := congrArg (List.map UInt8.ofNat) hvalues
      rw [List.map_map, List.map_map] at hmap
      refine hmap.trans ((List.map_congr_left fun value _ => ?_).trans (List.map_id values))
      exact UInt8.ofNat_toNat
    have hspells := Spells.string hbody hbytes
    rwa [hsame] at hspells

end Spelled

/-! ## What words fail at -/

/-- Characters fail to be bytes at the first that is none. -/
theorem Spelling.bytes_eq_error_iff {text : List Char} {c : Char} :
    bytes text = .error c ↔
      ∃ front back, text = front ++ c :: back ∧ (∀ d ∈ front, d.toNat ≤ 255) ∧ 255 < c.toNat := by
  induction text with
  | nil => exact ⟨fun h => absurd h (by simp [bytes]), fun ⟨_, _, h, _⟩ => absurd h (by simp)⟩
  | cons first rest ih =>
    rw [bytes]
    by_cases hbyte : first.toNat ≤ 255
    · rw [if_pos hbyte, map_eq_error_iff, ih]
      constructor
      · rintro ⟨front, back, rfl, hfront, hc⟩
        exact ⟨first :: front, back, rfl, List.forall_mem_cons.mpr ⟨hbyte, hfront⟩, hc⟩
      · rintro ⟨_ | ⟨d, front⟩, back, heq, hfront, hc⟩
        · rw [(List.cons.inj heq).1] at hbyte
          exact absurd hc (Nat.not_lt.mpr hbyte)
        · exact ⟨front, back, (List.cons.inj heq).2, (List.forall_mem_cons.mp hfront).2, hc⟩
    · rw [if_neg hbyte, Except.error.injEq]
      constructor
      · rintro rfl
        exact ⟨[], rest, rfl, fun d hd => absurd hd List.not_mem_nil, Nat.lt_of_not_le hbyte⟩
      · rintro ⟨_ | ⟨d, front⟩, back, heq, hfront, -⟩
        · exact (List.cons.inj heq).1
        · rw [(List.cons.inj heq).1] at hbyte
          exact absurd (hfront d List.mem_cons_self) hbyte

namespace Token

variable {lexeme : Lexeme}

/-- **What a word fails at**: its number, its string, or all the patterns. -/
theorem ofLexeme_eq_error_iff {fault : Fault} :
    ofLexeme lexeme = .error fault ↔
      (TokenKind.number.Matches lexeme.text.toList ∧
        ∃ flaw, Text.readDecimal 255 lexeme.text.toList = .error flaw ∧
          fault = .invalidLiteral lexeme.text (.numeral flaw) lexeme.span) ∨
      (∃ body c, lexeme.text.toList = '"' :: (body ++ ['"']) ∧ Enclosed (· ≠ '\n') body ∧
        Spelling.bytes (Spelling.unescape body) = .error c ∧
          fault = .invalidLiteral lexeme.text (.wideCharacter c) lexeme.span) ∨
      ((∀ kind : TokenKind, ¬ kind.Matches lexeme.text.toList) ∧
        fault = .unknownToken lexeme.text lexeme.span) := by
  constructor
  · intro h
    by_cases hmatch : ∃ kind : TokenKind, kind.Matches lexeme.text.toList
    · obtain ⟨kind, hkind⟩ := hmatch
      rw [ofLexeme_of_matches hkind] at h
      cases kind with
      | label | address | identifier => exact absurd h (by simp [readAs])
      | number =>
        rw [readAs] at h
        split at h
        · exact absurd h (by simp)
        · next flaw hflaw => exact Or.inl ⟨hkind, flaw, hflaw, (Except.error.inj h).symm⟩
      | string =>
        obtain ⟨body, htext, hbody⟩ := hkind
        rw [readAs, htext, List.tail_cons, List.dropLast_concat] at h
        split at h
        · exact absurd h (by simp)
        · next c hc =>
          exact Or.inr (Or.inl ⟨body, c, htext, hbody, hc, (Except.error.inj h).symm⟩)
    · rw [not_exists] at hmatch
      rw [ofLexeme_of_not_matches hmatch] at h
      exact Or.inr (Or.inr ⟨hmatch, (Except.error.inj h).symm⟩)
  · rintro (⟨hnumber, flaw, hflaw, rfl⟩ | ⟨body, c, htext, hbody, hc, rfl⟩ | ⟨hnone, rfl⟩)
    · rw [ofLexeme_of_matches hnumber, readAs, hflaw]
    · have hstring : TokenKind.string.Matches lexeme.text.toList := ⟨body, htext, hbody⟩
      rw [ofLexeme_of_matches hstring, readAs, htext, List.tail_cons, List.dropLast_concat, hc]
    · exact ofLexeme_of_not_matches hnone

/-- What starts a number is not empty. -/
theorem ne_nil_of_matches_number (h : TokenKind.number.Matches lexeme.text.toList) :
    lexeme.text.toList ≠ [] := by
  obtain ⟨digit, rest, htext, -⟩ := h
  rw [htext]
  exact List.cons_ne_nil digit rest

/-- **A word fails as a numeral** if it begins with a digit and the numeral does. -/
theorem ofLexeme_eq_numeral_iff {flaw : Text.NumeralFlaw} :
    ofLexeme lexeme = .error (.invalidLiteral lexeme.text (.numeral flaw) lexeme.span) ↔
      TokenKind.number.Matches lexeme.text.toList ∧
        Text.readDecimal 255 lexeme.text.toList = .error flaw := by
  rw [ofLexeme_eq_error_iff]
  simp only [Fault.invalidLiteral.injEq, LiteralFlaw.numeral.injEq, true_and, and_true,
    reduceCtorEq, and_false, exists_false, or_false, exists_eq_right']

/-- **A word fails as a string** at a character beyond a byte. -/
theorem ofLexeme_eq_wideCharacter_iff {c : Char} :
    ofLexeme lexeme = .error (.invalidLiteral lexeme.text (.wideCharacter c) lexeme.span) ↔
      ∃ body, lexeme.text.toList = '"' :: (body ++ ['"']) ∧ Enclosed (· ≠ '\n') body ∧
        Spelling.bytes (Spelling.unescape body) = .error c := by
  rw [ofLexeme_eq_error_iff]
  simp only [Fault.invalidLiteral.injEq, LiteralFlaw.wideCharacter.injEq, true_and, and_true,
    reduceCtorEq, and_false, exists_false, or_false, false_or, exists_and_left, exists_eq_right']

/-- **A word is nothing at all** if no pattern matches it. -/
theorem ofLexeme_eq_unknownToken_iff :
    ofLexeme lexeme = .error (.unknownToken lexeme.text lexeme.span) ↔
      ∀ kind : TokenKind, ¬ kind.Matches lexeme.text.toList := by
  rw [ofLexeme_eq_error_iff]
  simp only [reduceCtorEq, and_false, exists_false, false_or, and_true]

/-- **What every word is, or why it is nothing.** At most one of the five patterns
matches a word, so that they can be tried in any order. The tokens are the words of
their grammars, with the names, the values and the bytes that these give them. A word
that begins with a digit and is no number is too large if its leading digits are, and
otherwise something in it is no digit. A string that is closed fails at its first
character beyond a byte, and any other word matches no pattern. -/
theorem ofLexeme_recognises (lexeme : Lexeme) :
    let text := lexeme.text.toList
    (∀ kind other : TokenKind, kind.Matches text → other.Matches text → kind = other) ∧
    (∀ order : List TokenKind, (∀ kind, kind ∈ order) →
      tryKinds order lexeme = ofLexeme lexeme) ∧
    (∀ token, ofLexeme lexeme = .ok token → ∃ term : Term, token = term.token lexeme) ∧
    (∀ name, ofLexeme lexeme = .ok ((Term.label name).token lexeme) ↔
      text = name.toList ++ [':'] ∧ IsName name.toList) ∧
    (∀ name, ofLexeme lexeme = .ok ((Term.address name).token lexeme) ↔
      text = '[' :: (name.toList ++ [']']) ∧ IsName name.toList) ∧
    (∀ value, ofLexeme lexeme = .ok ((Term.number value).token lexeme) ↔
      text ≠ [] ∧ (∀ c ∈ text, c.isDigit = true) ∧ Text.numeralValue text = value.toNat) ∧
    (∀ values, ofLexeme lexeme = .ok ((Term.string values).token lexeme) ↔
      ∃ body, text = '"' :: (body ++ ['"']) ∧ Enclosed (· ≠ '\n') body ∧
        (Spelling.unescape body).map Char.toNat = values.map UInt8.toNat) ∧
    (∀ name, ofLexeme lexeme = .ok ((Term.identifier name).token lexeme) ↔
      text = name.toList ∧ IsName name.toList) ∧
    (ofLexeme lexeme = .error (.invalidLiteral lexeme.text (.numeral .tooLarge) lexeme.span) ↔
      TokenKind.number.Matches text ∧
        255 < Text.numeralValue (text.takeWhile Char.isDigit)) ∧
    (ofLexeme lexeme = .error (.invalidLiteral lexeme.text (.numeral .invalidDigit) lexeme.span) ↔
      TokenKind.number.Matches text ∧
        Text.numeralValue (text.takeWhile Char.isDigit) ≤ 255 ∧ ∃ c ∈ text, c.isDigit = false) ∧
    (∀ c, ofLexeme lexeme = .error (.invalidLiteral lexeme.text (.wideCharacter c) lexeme.span) ↔
      ∃ body, text = '"' :: (body ++ ['"']) ∧ Enclosed (· ≠ '\n') body ∧
        ∃ front back, Spelling.unescape body = front ++ c :: back ∧
          (∀ d ∈ front, d.toNat ≤ 255) ∧ 255 < c.toNat) ∧
    (ofLexeme lexeme = .error (.unknownToken lexeme.text lexeme.span) ↔
      ∀ kind : TokenKind, ¬ kind.Matches text) ∧
    (LiteralFlaw.numeral .tooLarge).reason = "number too large to fit in target type" ∧
    (LiteralFlaw.numeral .invalidDigit).reason = "invalid digit found in string" := by
  intro text
  refine ⟨fun kind other => TokenKind.eq_of_matches, fun order horder => tryKinds_eq horder lexeme,
    fun token htoken => ?_, fun name => ofLexeme_eq_token_iff.trans spells_label_iff,
    fun name => ofLexeme_eq_token_iff.trans spells_address_iff,
    fun value => ofLexeme_eq_token_iff.trans spells_number_iff,
    fun values => ofLexeme_eq_token_iff.trans spells_string_iff,
    fun name => ofLexeme_eq_token_iff.trans spells_identifier_iff, ?_, ?_, fun c => ?_,
    ofLexeme_eq_unknownToken_iff, rfl, rfl⟩
  · obtain ⟨term, -, hterm⟩ := ofLexeme_eq_ok_iff.mp htoken
    exact ⟨term, hterm⟩
  · rw [ofLexeme_eq_numeral_iff]
    exact and_congr_right fun hnumber =>
      Text.readDecimal_eq_tooLarge_iff (ne_nil_of_matches_number hnumber)
  · rw [ofLexeme_eq_numeral_iff]
    exact and_congr_right fun hnumber =>
      Text.readDecimal_eq_invalidDigit_iff (ne_nil_of_matches_number hnumber)
  · rw [ofLexeme_eq_wideCharacter_iff]
    refine exists_congr fun body => ?_
    rw [Spelling.bytes_eq_error_iff]

/-- A label with a character of two bytes, with the kinds tried from the last to the
first: it is not read as the identifier that it begins with. -/
theorem ofLexeme_recognises_lastFirst :
    let lexeme : Lexeme := ⟨"l\u00e9:", ⟨7, 4⟩⟩
    (∀ kind, kind ∈ TokenKind.all.reverse) ∧
      tryKinds TokenKind.all.reverse lexeme
        = .ok ⟨.label, "l\u00e9:", .name "l\u00e9", ⟨7, 4⟩⟩ := by
  intro lexeme
  have hall : ∀ kind, kind ∈ TokenKind.all.reverse := by
    intro kind
    rw [List.mem_reverse]
    exact kind.mem_all
  have htoken : ofLexeme lexeme = .ok ⟨.label, "l\u00e9:", .name "l\u00e9", ⟨7, 4⟩⟩ := by
    decide +kernel
  exact ⟨hall, ((ofLexeme_recognises lexeme).2.1 _ hall).trans htoken⟩

example : ofLexeme ⟨"256x", ⟨0, 4⟩⟩
    = .error (.invalidLiteral "256x" (.numeral .tooLarge) ⟨0, 4⟩) := by decide +kernel

example : ofLexeme ⟨"26x", ⟨0, 3⟩⟩
    = .error (.invalidLiteral "26x" (.numeral .invalidDigit) ⟨0, 3⟩) := by decide +kernel

end Token

end AccumulatorMachine
