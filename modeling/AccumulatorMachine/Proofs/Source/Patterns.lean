import AccumulatorMachine.Proofs.Source.Terms

/-!
# The patterns of tokens

`Token.ofLexeme` tries five patterns one after the other. Nothing depends on that:
the patterns exclude each other (`TokenKind.eq_of_matches`), so that any order in
which they are tried gives the same token or the same fault (`Token.tryKinds_eq`).
All but two are told apart by the first character of a word; a label and an
identifier begin alike, but only the label ends in a colon, and no name holds one.

So a word is read as the kind whose pattern it matches, if there is one, and that is
a token exactly of what the word spells in the grammar (`Token.ofLexeme_eq_ok_iff`).
-/

namespace AccumulatorMachine

namespace TokenKind

/-! ## The patterns -/

/-- **The pattern of a kind of token**: what a text must look like to be read as one.
For a number the first character decides. -/
def Matches (text : List Char) : TokenKind → Prop
  | label => ∃ name, text = name ++ [':'] ∧ IsName name
  | address => ∃ name, text = '[' :: (name ++ [']']) ∧ IsName name
  | number => ∃ digit rest, text = digit :: rest ∧ digit.isDigit = true
  | string => ∃ body, text = '"' :: (body ++ ['"']) ∧ Enclosed (· ≠ '\n') body
  | identifier => IsName text

/-- Whether a text matches the pattern of a kind. -/
def fits (text : List Char) : TokenKind → Bool
  | label => (Spelling.label? text).isSome
  | address => (Spelling.address? text).isSome
  | number => Spelling.startsNumber text
  | string => (Spelling.string? text).isSome
  | identifier => Spelling.isName text

/-- The patterns are the spellings that are tried. -/
theorem fits_iff {text : List Char} {kind : TokenKind} :
    kind.fits text = true ↔ kind.Matches text := by
  cases kind with
  | label =>
    rw [fits, Option.isSome_iff_exists]
    exact exists_congr fun name => Spelling.label?_eq_some_iff
  | address =>
    rw [fits, Option.isSome_iff_exists]
    exact exists_congr fun name => Spelling.address?_eq_some_iff
  | number =>
    cases text with
    | nil => exact ⟨fun h => absurd h Bool.false_ne_true, fun ⟨_, _, h, _⟩ => absurd h (by simp)⟩
    | cons c rest =>
      constructor
      · exact fun h => ⟨c, rest, rfl, h⟩
      · rintro ⟨digit, others, heq, hdigit⟩
        rw [(List.cons.inj heq).1]
        exact hdigit
  | string =>
    rw [fits, Option.isSome_iff_exists]
    exact exists_congr fun body => Spelling.string?_eq_some_iff
  | identifier => exact Spelling.isName_iff

instance (text : List Char) (kind : TokenKind) : Decidable (kind.Matches text) :=
  decidable_of_iff _ fits_iff

/-! ## The patterns exclude each other -/

/-- **What a word can be by its first character**, where a name stands for all that
begins with one. -/
def ofFirst? (c : Char) : Option TokenKind :=
  if Spelling.startsName c then some identifier
  else if c.isDigit then some number
  else if c = '[' then some address
  else if c = '"' then some string
  else none

/-- The kind by the first character: labels begin like identifiers. -/
def opening : TokenKind → TokenKind
  | label => identifier
  | kind => kind

/-- What begins with a name begins like an identifier. -/
theorem ofFirst?_of_isName {name : List Char} (h : IsName name) (behind : List Char) :
    ∃ c rest, name ++ behind = c :: rest ∧ ofFirst? c = some identifier := by
  obtain ⟨first, rest, rfl, hfirst, -⟩ := h
  refine ⟨first, rest ++ behind, rfl, ?_⟩
  unfold ofFirst?
  exact if_pos hfirst

/-- **A text that matches a pattern begins like its kind.** -/
theorem Matches.ofFirst?_eq {text : List Char} {kind : TokenKind} (h : kind.Matches text) :
    ∃ c rest, text = c :: rest ∧ ofFirst? c = some kind.opening := by
  cases kind with
  | label =>
    obtain ⟨name, rfl, hname⟩ := h
    exact ofFirst?_of_isName hname [':']
  | address =>
    obtain ⟨name, rfl, -⟩ := h
    exact ⟨'[', name ++ [']'], rfl, by decide⟩
  | number =>
    obtain ⟨digit, rest, rfl, hdigit⟩ := h
    refine ⟨digit, rest, rfl, ?_⟩
    unfold ofFirst?
    rw [if_neg (by rw [Spelling.startsName_of_isDigit hdigit]; decide), if_pos hdigit]
    rfl
  | string =>
    obtain ⟨body, rfl, -⟩ := h
    exact ⟨'"', body ++ ['"'], rfl, by decide⟩
  | identifier =>
    have hfirst := ofFirst?_of_isName h []
    rwa [List.append_nil] at hfirst

/-- A label is no identifier, since a name holds no colon. -/
theorem Matches.not_identifier {text : List Char} (h : label.Matches text) :
    ¬ identifier.Matches text := by
  intro hname
  obtain ⟨name, htext, hlabel⟩ := h
  exact absurd (Spelling.label?_eq_some_iff.mpr ⟨htext, hlabel⟩)
    (by rw [Spelling.label?_eq_none_of_isName hname]; exact (Option.some_ne_none _).symm)

/-- **At most one pattern matches a text.** -/
theorem eq_of_matches {text : List Char} {kind other : TokenKind} (h : kind.Matches text)
    (hother : other.Matches text) : kind = other := by
  have hopening : kind.opening = other.opening := by
    obtain ⟨c, rest, rfl, hfirst⟩ := h.ofFirst?_eq
    obtain ⟨d, others, heq, hsecond⟩ := hother.ofFirst?_eq
    rw [← (List.cons.inj heq).1, hfirst] at hsecond
    exact Option.some.inj hsecond
  by_cases hlabel : kind = label
  · subst hlabel
    cases other with
    | label => rfl
    | identifier => exact absurd hother h.not_identifier
    | address | number | string => exact absurd hopening (by decide)
  by_cases hlabel' : other = label
  · subst hlabel'
    cases kind with
    | label => rfl
    | identifier => exact absurd h hother.not_identifier
    | address | number | string => exact absurd hopening (by decide)
  · -- neither is a label, so that each is what its first character says
    have hself : ∀ {kind : TokenKind}, kind ≠ label → kind.opening = kind := by
      intro kind hne
      cases kind <;> first | rfl | exact absurd rfl hne
    rw [← hself hlabel, ← hself hlabel', hopening]

/-- The kind whose pattern matches is found, in whatever order the kinds are tried. -/
theorem find?_fits_eq_some {order : List TokenKind} {kind : TokenKind} (hmem : kind ∈ order)
    {text : List Char} (h : kind.Matches text) : order.find? (fits text) = some kind := by
  cases hfound : order.find? (fits text) with
  | none => exact absurd (fits_iff.mpr h) (List.find?_eq_none.mp hfound kind hmem)
  | some found => rw [eq_of_matches (fits_iff.mp (List.find?_some hfound)) h]

/-- No kind is found where no pattern matches. -/
theorem find?_fits_eq_none {text : List Char} (h : ∀ kind : TokenKind, ¬ kind.Matches text)
    (order : List TokenKind) : order.find? (fits text) = none :=
  List.find?_eq_none.mpr fun kind _ => mt fits_iff.mp (h kind)

/-- Every kind is in the list of all. -/
theorem mem_all (kind : TokenKind) : kind ∈ all := by
  cases kind <;> decide

end TokenKind

/-! ## Trying the kinds -/

namespace Token

variable {lexeme : Lexeme}

/-- **A lexeme as a token of one kind**, whose pattern it matches. -/
def readAs (lexeme : Lexeme) : TokenKind → Except Fault Token
  | .label =>
    .ok ⟨.label, lexeme.text, .name (String.ofList lexeme.text.toList.dropLast), lexeme.span⟩
  | .address =>
    .ok ⟨.address, lexeme.text, .name (String.ofList lexeme.text.toList.tail.dropLast), lexeme.span⟩
  | .number =>
    match Text.readDecimal 255 lexeme.text.toList with
    | .ok value => .ok ⟨.number, lexeme.text, .byte (UInt8.ofNat value), lexeme.span⟩
    | .error flaw => .error (.invalidLiteral lexeme.text (.numeral flaw) lexeme.span)
  | .string =>
    match Spelling.bytes (Spelling.unescape lexeme.text.toList.tail.dropLast) with
    | .ok values => .ok ⟨.string, lexeme.text, .bytes values, lexeme.span⟩
    | .error c => .error (.invalidLiteral lexeme.text (.wideCharacter c) lexeme.span)
  | .identifier => .ok ⟨.identifier, lexeme.text, .name lexeme.text, lexeme.span⟩

/-- **A lexeme as a token of the first kind whose pattern it matches**, where the kinds
are tried in some order. -/
def tryKinds (order : List TokenKind) (lexeme : Lexeme) : Except Fault Token :=
  match order.find? (TokenKind.fits lexeme.text.toList) with
  | some kind => readAs lexeme kind
  | none => .error (.unknownToken lexeme.text lexeme.span)

/-- **The kinds are tried in the order in which messages list them**, one spelling after
the other. -/
theorem ofLexeme_eq_tryKinds (lexeme : Lexeme) :
    ofLexeme lexeme = tryKinds TokenKind.all lexeme := by
  unfold ofLexeme tryKinds TokenKind.all
  dsimp only
  cases hlabel : Spelling.label? lexeme.text.toList with
  | some name =>
    obtain ⟨htext, -⟩ := Spelling.label?_eq_some_iff.mp hlabel
    rw [List.find?_cons_of_pos (by rw [TokenKind.fits, hlabel]; rfl)]
    dsimp only
    rw [readAs, htext, List.dropLast_concat]
  | none =>
  rw [List.find?_cons_of_neg (by rw [TokenKind.fits, hlabel]; decide)]
  dsimp only
  cases haddress : Spelling.address? lexeme.text.toList with
  | some name =>
    obtain ⟨htext, -⟩ := Spelling.address?_eq_some_iff.mp haddress
    rw [List.find?_cons_of_pos (by rw [TokenKind.fits, haddress]; rfl)]
    dsimp only
    rw [readAs, htext, List.tail_cons, List.dropLast_concat]
  | none =>
  rw [List.find?_cons_of_neg (by rw [TokenKind.fits, haddress]; decide)]
  dsimp only
  by_cases hnumber : Spelling.startsNumber lexeme.text.toList = true
  · rw [if_pos hnumber, List.find?_cons_of_pos (by exact hnumber)]
    cases hvalue : Text.readDecimal 255 lexeme.text.toList <;> simp only [readAs, hvalue]
  rw [if_neg hnumber, List.find?_cons_of_neg (by exact hnumber)]
  cases hstring : Spelling.string? lexeme.text.toList with
  | some body =>
    obtain ⟨htext, -⟩ := Spelling.string?_eq_some_iff.mp hstring
    rw [List.find?_cons_of_pos (by rw [TokenKind.fits, hstring]; rfl)]
    cases hvalues : Spelling.bytes (Spelling.unescape body) <;>
      simp only [readAs, htext, List.tail_cons, List.dropLast_concat, hvalues]
  | none =>
  rw [List.find?_cons_of_neg (by rw [TokenKind.fits, hstring]; decide)]
  dsimp only
  by_cases hname : Spelling.isName lexeme.text.toList = true
  · rw [if_pos hname, List.find?_cons_of_pos (by exact hname)]
    rfl
  · rw [if_neg hname, List.find?_cons_of_neg (by exact hname)]
    rfl

/-- A lexeme that matches a pattern is read as that kind. -/
theorem ofLexeme_of_matches {kind : TokenKind} (h : kind.Matches lexeme.text.toList) :
    ofLexeme lexeme = readAs lexeme kind := by
  rw [ofLexeme_eq_tryKinds, tryKinds, TokenKind.find?_fits_eq_some kind.mem_all h]

/-- A lexeme that matches no pattern is no token. -/
theorem ofLexeme_of_not_matches (h : ∀ kind : TokenKind, ¬ kind.Matches lexeme.text.toList) :
    ofLexeme lexeme = .error (.unknownToken lexeme.text lexeme.span) := by
  rw [ofLexeme_eq_tryKinds, tryKinds, TokenKind.find?_fits_eq_none h]

/-- **The order in which the kinds are tried makes no difference.** -/
theorem tryKinds_eq {order : List TokenKind} (horder : ∀ kind, kind ∈ order) (lexeme : Lexeme) :
    tryKinds order lexeme = ofLexeme lexeme := by
  unfold tryKinds
  by_cases h : ∃ kind : TokenKind, kind.Matches lexeme.text.toList
  · obtain ⟨kind, hkind⟩ := h
    rw [TokenKind.find?_fits_eq_some (horder kind) hkind, ofLexeme_of_matches hkind]
  · rw [not_exists] at h
    rw [TokenKind.find?_fits_eq_none h, ofLexeme_of_not_matches h]

end Token

/-! ## Tokens -/

/-- The token that a term is, written as a lexeme. -/
def Term.token (term : Term) (lexeme : Lexeme) : Token :=
  ⟨term.kind, lexeme.text, term.value, lexeme.span⟩

/-- What spells a term matches the pattern of its kind. -/
theorem Spells.matches {text : List Char} {term : Term} (h : Spells text term) :
    term.kind.Matches text := by
  cases h with
  | label hname => exact ⟨_, rfl, hname⟩
  | address hname => exact ⟨_, rfl, hname⟩
  | number hdigits hall _ =>
    obtain ⟨digit, rest, rfl⟩ := List.exists_cons_of_ne_nil hdigits
    exact ⟨digit, rest, rfl, hall digit List.mem_cons_self⟩
  | string hbody _ => exact ⟨_, rfl, hbody⟩
  | identifier hname => exact hname

/-- **A lexeme that spells a term is its token.** -/
theorem Spells.ofLexeme_eq {lexeme : Lexeme} {term : Term}
    (h : Spells lexeme.text.toList term) : Token.ofLexeme lexeme = .ok (term.token lexeme) := by
  rw [Token.ofLexeme_of_matches h.matches]
  unfold Term.token
  generalize htext : lexeme.text.toList = text at h
  cases h with
  | label hname => rw [Term.kind, Token.readAs, htext, List.dropLast_concat, Term.value]
  | address hname =>
    rw [Term.kind, Token.readAs, htext, List.tail_cons, List.dropLast_concat, Term.value]
  | number hdigits hall hbyte =>
    rw [Term.kind, Token.readAs, htext,
      Text.readDecimal_eq_ok_iff.mpr ⟨hdigits, hall, hbyte, rfl⟩, Term.value]
  | string hbody hbytes =>
    rw [Term.kind, Token.readAs, htext, List.tail_cons, List.dropLast_concat,
      Spelling.bytes_eq_ok_iff.mpr ⟨hbytes, rfl⟩, Term.value]
  | identifier hname =>
    rw [Term.kind, Token.readAs, Term.value, ← htext, String.ofList_toList]

/-- What is read as a kind whose pattern it matches spells a term. -/
theorem Token.exists_spells_of_readAs {lexeme : Lexeme} {kind : TokenKind} {token : Token}
    (hkind : kind.Matches lexeme.text.toList) (h : readAs lexeme kind = .ok token) :
    ∃ term, Spells lexeme.text.toList term ∧ token = term.token lexeme := by
  unfold readAs at h
  generalize htext : lexeme.text.toList = text at hkind h
  cases kind with
  | label =>
    obtain ⟨name, rfl, hname⟩ := hkind
    rw [List.dropLast_concat] at h
    exact ⟨_, .label hname, (Except.ok.inj h).symm⟩
  | address =>
    obtain ⟨name, rfl, hname⟩ := hkind
    rw [List.tail_cons, List.dropLast_concat] at h
    exact ⟨_, .address hname, (Except.ok.inj h).symm⟩
  | number =>
    dsimp only at h
    split at h
    · next value hvalue =>
      obtain ⟨hdigits, hall, hbyte, rfl⟩ := Text.readDecimal_eq_ok_iff.mp hvalue
      exact ⟨_, .number hdigits hall hbyte, (Except.ok.inj h).symm⟩
    · exact absurd h (by simp)
  | string =>
    obtain ⟨body, rfl, hbody⟩ := hkind
    dsimp only at h
    rw [List.tail_cons, List.dropLast_concat] at h
    split at h
    · next values hvalues =>
      obtain ⟨hbytes, rfl⟩ := Spelling.bytes_eq_ok_iff.mp hvalues
      exact ⟨_, .string hbody hbytes, (Except.ok.inj h).symm⟩
    · exact absurd h (by simp)
  | identifier =>
    refine ⟨_, .identifier hkind, ?_⟩
    rw [← Except.ok.inj h, ← htext, Term.token, Term.kind, Term.value, String.ofList_toList]

/-- A lexeme that is a token spells a term. -/
theorem Token.exists_spells {lexeme : Lexeme} {token : Token} (h : ofLexeme lexeme = .ok token) :
    ∃ term, Spells lexeme.text.toList term ∧ token = term.token lexeme := by
  by_cases hmatch : ∃ kind : TokenKind, kind.Matches lexeme.text.toList
  · obtain ⟨kind, hkind⟩ := hmatch
    rw [ofLexeme_of_matches hkind] at h
    exact exists_spells_of_readAs hkind h
  · rw [not_exists] at hmatch
    rw [ofLexeme_of_not_matches hmatch] at h
    exact absurd h (by simp)

/-- **A lexeme is a token** exactly if it spells a term. -/
theorem Token.ofLexeme_eq_ok_iff {lexeme : Lexeme} {token : Token} :
    ofLexeme lexeme = .ok token ↔
      ∃ term, Spells lexeme.text.toList term ∧ token = term.token lexeme := by
  constructor
  · exact exists_spells
  · rintro ⟨term, hspells, rfl⟩
    exact hspells.ofLexeme_eq

end AccumulatorMachine
