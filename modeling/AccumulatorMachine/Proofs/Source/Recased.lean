import AccumulatorMachine.Proofs.Program.Capitals
import AccumulatorMachine.Proofs.Source.Tiling

/-!
# Source texts in another case

Where letters of ASCII are made small or capital, a source text falls into the same words at
the same places: no separator, no mark and no line feed is a letter, and a letter takes one byte
whatever its case (`Cuts.recased`, `Text.splitOn_recased`). A word is of the same kind as before
(`Spells.recased`), since names may be written in any case. Only what is said is another name
then, or, if it is a numeral or in quotation marks, something else altogether.

`Source.RecasedIn` is for source texts that differ in some of their tokens only. All their
other tokens are the same, at the same places (`Source.RecasedIn.exists_tokens`).
-/

namespace AccumulatorMachine

namespace Text

/-! ## Letters -/

/-- **Characters with the same small letter** are the same, or both are letters. -/
theorem eq_or_isAlpha {c d : Char} (h : c.toLower = d.toLower) :
    c = d ∨ c.isAlpha = true ∧ d.isAlpha = true := by
  have hcode : c.toLower.toNat = d.toLower.toNat := congrArg Char.toNat h
  rw [toNat_toLower, toNat_toLower] at hcode
  rw [isAlpha_iff, isAlpha_iff, ← Char.toNat_inj]
  split at hcode <;> split at hcode <;> omega

/-- What is no letter has no other case. -/
theorem eq_of_isAlpha_eq_false {c d : Char} (h : c.toLower = d.toLower)
    (hc : c.isAlpha = false) : d = c := by
  rcases eq_or_isAlpha h with heq | ⟨hletter, -⟩
  · exact heq.symm
  · exact absurd (hletter.symm.trans hc) (by decide)

/-- A test that all letters pass alike does not know their case. -/
theorem test_eq {p : Char → Bool} {answer : Bool} (hp : ∀ c : Char, c.isAlpha = true → p c = answer)
    {c d : Char} (h : c.toLower = d.toLower) : p d = p c := by
  rcases eq_or_isAlpha h with rfl | ⟨hc, hd⟩
  · rfl
  · rw [hp c hc, hp d hd]

section Letters

variable {c : Char} (h : c.isAlpha = true)

include h

/-- A letter is no other character. -/
theorem ne_of_isAlpha {d : Char} (hd : d.isAlpha = false) : c ≠ d := by
  rintro rfl
  exact absurd (h.symm.trans hd) (by decide)

/-- A letter takes one byte. -/
theorem utf8Size_of_isAlpha : c.utf8Size = 1 := by
  have hrange := isAlpha_iff.mp h
  rw [Char.utf8Size_eq_one_iff, UInt32.le_iff_toNat_le]
  show c.toNat ≤ 127
  omega

/-- A letter separates no words. -/
theorem isSeparator_of_isAlpha : isSeparator c = false := by
  simp [isSeparator, ne_of_isAlpha h (d := ' ') (by decide),
    ne_of_isAlpha h (d := '\t') (by decide), ne_of_isAlpha h (d := '\r') (by decide)]

/-- A letter goes on with a word. -/
theorem continuesLexeme_of_isAlpha : continuesLexeme c = true := by
  simp [continuesLexeme, isSeparator_of_isAlpha h, ne_of_isAlpha h (d := ';') (by decide)]

/-- A letter begins a name. -/
theorem startsName_of_isAlpha : Spelling.startsName c = true :=
  Spelling.startsName_iff.mpr ((isAlpha_iff.mp h).imp id Or.inl)

/-- A letter goes on with a name. -/
theorem isWordCharacter_of_isAlpha : isWordCharacter c = true := by
  have hrange := isAlpha_iff.mp h
  rw [isWordCharacter_of_ascii (by omega), Char.isAlphanum, h]
  rfl

end Letters

/-! ## Texts -/

/-- **A text in another case**: its characters have the same small letters. -/
def Recased (text other : List Char) : Prop :=
  text.map Char.toLower = other.map Char.toLower

/-- Strings are equal up to case if one is the other in another case. -/
theorem equalIgnoringCase_iff_recased {a b : String} :
    equalIgnoringCase a b = true ↔ Recased a.toList b.toList :=
  beq_iff_eq

namespace Recased

variable {text other : List Char}

/-- No text has no other case. -/
theorem eq_nil (h : Recased [] other) : other = [] :=
  List.map_eq_nil_iff.mp h.symm

/-- The first character is in another case, and so are the others. -/
theorem of_cons {c : Char} (h : Recased (c :: text) other) :
    ∃ d rest, other = d :: rest ∧ c.toLower = d.toLower ∧ Recased text rest := by
  obtain ⟨d, rest, rfl, hd, hrest⟩ := List.map_eq_cons_iff.mp h.symm
  exact ⟨d, rest, rfl, hd.symm, hrest.symm⟩

/-- A first character that is no letter stays. -/
theorem of_cons_same {c : Char} (h : Recased (c :: text) other) (hc : c.isAlpha = false) :
    ∃ rest, other = c :: rest ∧ Recased text rest := by
  obtain ⟨d, rest, rfl, hd, hrest⟩ := h.of_cons
  obtain rfl := eq_of_isAlpha_eq_false hd hc
  exact ⟨rest, rfl, hrest⟩

/-- Both parts of a text are in another case. -/
theorem of_append {front back : List Char} (h : Recased (front ++ back) other) :
    ∃ front' back', other = front' ++ back' ∧ Recased front front' ∧ Recased back back' := by
  unfold Recased at h
  rw [List.map_append] at h
  obtain ⟨front', back', rfl, hfront, hback⟩ := List.map_eq_append_iff.mp h.symm
  exact ⟨front', back', rfl, hfront.symm, hback.symm⟩

/-- **A text takes as many bytes** in another case. -/
theorem byteLength_eq (h : Recased text other) : byteLength other = byteLength text := by
  induction text generalizing other with
  | nil => rw [h.eq_nil]
  | cons c text ih =>
    obtain ⟨d, rest, rfl, hd, hrest⟩ := h.of_cons
    rw [byteLength_cons, byteLength_cons, ih hrest]
    rcases eq_or_isAlpha hd with rfl | ⟨hc, hletter⟩
    · rfl
    · rw [utf8Size_of_isAlpha hc, utf8Size_of_isAlpha hletter]

/-- A test that all letters pass is passed in another case. -/
theorem forall_test {p : Char → Bool} {answer : Bool}
    (hp : ∀ c : Char, c.isAlpha = true → p c = answer) (h : Recased text other)
    (hall : ∀ c ∈ text, p c = true) : ∀ c ∈ other, p c = true := by
  induction text generalizing other with
  | nil => exact fun c hc => absurd (h.eq_nil ▸ hc) List.not_mem_nil
  | cons c text ih =>
    obtain ⟨d, rest, rfl, hd, hrest⟩ := h.of_cons
    rw [List.forall_mem_cons] at hall ⊢
    exact ⟨(test_eq hp hd).trans hall.1, ih hrest hall.2⟩

/-- **Texts that are not the same** differ at some place. -/
theorem exists_ne (h : Recased text other) (hne : text ≠ other) :
    ∃ place c d, StandsAt text place c ∧ StandsAt other place d ∧ c ≠ d := by
  induction text generalizing other with
  | nil => exact absurd h.eq_nil.symm hne
  | cons c text ih =>
    obtain ⟨d, rest, rfl, hd, hrest⟩ := h.of_cons
    by_cases hcd : c = d
    · subst hcd
      obtain ⟨_, e, f, ⟨before, behind, rfl, rfl⟩, ⟨before', behind', rfl, hplace⟩, hef⟩ :=
        ih hrest fun heq => hne (heq ▸ rfl)
      refine ⟨byteLength (c :: before), e, f, ⟨c :: before, behind, rfl, rfl⟩,
        ⟨c :: before', behind', rfl, ?_⟩, hef⟩
      rw [byteLength_cons, byteLength_cons, hplace]
    · exact ⟨0, c, d, ⟨[], text, rfl, rfl⟩, ⟨[], rest, rfl, rfl⟩, hcd⟩

end Recased

/-- **A text is split at the same places** in another case. -/
theorem splitOn_recased {separator : Char} (hseparator : separator.isAlpha = false)
    {text other : List Char} (h : Recased text other) :
    List.Forall₂ Recased (splitOn separator text) (splitOn separator other) := by
  induction text generalizing other with
  | nil =>
    obtain rfl := h.eq_nil
    exact .cons rfl .nil
  | cons c text ih =>
    obtain ⟨d, rest, rfl, hd, hrest⟩ := h.of_cons
    have hparts := ih hrest
    by_cases hc : c = separator
    · subst hc
      obtain rfl := eq_of_isAlpha_eq_false hd hseparator
      rw [splitOn_cons_separator, splitOn_cons_separator]
      exact .cons rfl hparts
    · have hd' : d ≠ separator := by
        rintro rfl
        exact hc (eq_of_isAlpha_eq_false hd.symm hseparator)
      obtain ⟨part, parts, hpart⟩ := List.exists_cons_of_ne_nil (splitOn_ne_nil separator text)
      obtain ⟨part', parts', hpart'⟩ := List.exists_cons_of_ne_nil (splitOn_ne_nil separator rest)
      rw [hpart, hpart', List.forall₂_cons] at hparts
      rw [splitOn_cons_of_ne hc hpart, splitOn_cons_of_ne hd' hpart']
      refine .cons ?_ hparts.2
      show c.toLower :: part.map Char.toLower = d.toLower :: part'.map Char.toLower
      rw [hd, show part.map Char.toLower = _ from hparts.1]

end Text

/-! ## Words -/

/-- A name in another case is a name. -/
theorem IsName.recased {text other : List Char} (h : IsName text)
    (hother : Text.Recased text other) : IsName other := by
  obtain ⟨first, rest, rfl, hfirst, hrest⟩ := h
  obtain ⟨first', rest', rfl, hsame, hothers⟩ := hother.of_cons
  exact ⟨first', rest', rfl,
    (Text.test_eq (fun _ => Text.startsName_of_isAlpha) hsame).trans hfirst,
    hothers.forall_test (fun _ => Text.isWordCharacter_of_isAlpha) hrest⟩

/-- What can stand between quotation marks can in another case. -/
theorem Enclosed.recased {body other : List Char} (h : Enclosed (fun _ => True) body)
    (hother : Text.Recased body other) : Enclosed (fun _ => True) other := by
  induction h generalizing other with
  | nil => exact hother.eq_nil ▸ .nil
  | plain hquote hbackslash _ ih =>
    obtain ⟨d, rest, rfl, hd, hrest⟩ := hother.of_cons
    refine .plain ?_ ?_ (ih hrest)
    · rintro rfl
      exact hquote (Text.eq_of_isAlpha_eq_false hd.symm (by decide))
    · rintro rfl
      exact hbackslash (Text.eq_of_isAlpha_eq_false hd.symm (by decide))
  | pair _ _ ih =>
    obtain ⟨rest, rfl, hrest⟩ := hother.of_cons_same (by decide)
    obtain ⟨d, body', rfl, -, hbody⟩ := hrest.of_cons
    exact .pair trivial (ih hbody)

/-- A word in another case is a word. -/
theorem IsWord.recased {word other : List Char} (h : IsWord word)
    (hother : Text.Recased word other) : IsWord other := by
  have hcontinues : ∀ {glued again : List Char}, Text.Recased glued again →
      (∀ c ∈ glued, continuesLexeme c = true) → ∀ c ∈ again, continuesLexeme c = true :=
    fun h => h.forall_test fun _ => Text.continuesLexeme_of_isAlpha
  cases h with
  | plain hquote hall =>
    have hall' := hcontinues hother hall
    obtain ⟨d, rest, rfl, hd, -⟩ := hother.of_cons
    refine .plain ?_ hall'
    rintro rfl
    exact hquote (Text.eq_of_isAlpha_eq_false hd.symm (by decide))
  | quoted hbody hall =>
    obtain ⟨inside, rfl, hinside⟩ := hother.of_cons_same (by decide)
    obtain ⟨body', behind, rfl, hbody', hbehind⟩ := hinside.of_append
    obtain ⟨glued', rfl, hglued'⟩ := hbehind.of_cons_same (by decide)
    exact .quoted (hbody.recased hbody') (hcontinues hglued' hall)

/-- Where a word can end, it can in another case. -/
theorem EndsWord.recased {text other : List Char} (h : EndsWord text)
    (hother : Text.Recased text other) : EndsWord other := by
  cases text with
  | nil => exact hother.eq_nil ▸ h
  | cons c text =>
    obtain ⟨d, rest, rfl, hd, -⟩ := hother.of_cons
    rintro e he
    obtain rfl := Option.some.inj he
    exact (Text.test_eq (fun _ => Text.continuesLexeme_of_isAlpha) hd).trans (h c rfl)

/-- A lexeme is another one in another case, at the same place. -/
def Lexeme.Recased (lexeme other : Lexeme) : Prop :=
  other.span = lexeme.span ∧ Text.Recased lexeme.text.toList other.text.toList

/-- **A line in another case is cut at the same places.** -/
theorem Cuts.recased {line other : List Char} {offset : Nat} {lexemes : List Lexeme}
    (h : Cuts line offset lexemes) (hother : Text.Recased line other) :
    ∃ others, Cuts other offset others ∧ List.Forall₂ Lexeme.Recased lexemes others := by
  induction h generalizing other with
  | done => exact ⟨[], hother.eq_nil ▸ .done, .nil⟩
  | comment =>
    obtain ⟨rest, rfl, -⟩ := hother.of_cons_same (by decide)
    exact ⟨[], .comment, .nil⟩
  | skip hseparator _ ih =>
    obtain ⟨d, rest, rfl, hd, hrest⟩ := hother.of_cons
    rcases Text.eq_or_isAlpha hd with rfl | ⟨hletter, -⟩
    · obtain ⟨others, hcuts, hall⟩ := ih hrest
      exact ⟨others, .skip hseparator hcuts, hall⟩
    · exact absurd (hseparator.symm.trans (Text.isSeparator_of_isAlpha hletter)) (by decide)
  | @word word text offset lexemes hword hend _ ih =>
    obtain ⟨word', rest, rfl, hword', hrest⟩ := hother.of_append
    obtain ⟨others, hcuts, hall⟩ := ih hrest
    rw [← hword'.byteLength_eq] at hcuts
    refine ⟨_, .word (hword.recased hword') (hend.recased hrest) hcuts, .cons ⟨?_, ?_⟩ hall⟩
    · show Span.mk offset _ = Span.mk offset _
      rw [hword'.byteLength_eq]
    · rw [Lexeme.toList_text_ofWord, Lexeme.toList_text_ofWord]
      exact hword'

/-! ## Tokens -/

/-- **A term is another one in another case**: if it is a name, then in another case, and
otherwise it is the same. -/
inductive Term.Recased : Term → Term → Prop
  /-- A label. -/
  | label {name other : String} (h : Text.equalIgnoringCase name other = true) :
    Recased (.label name) (.label other)
  /-- An address. -/
  | address {name other : String} (h : Text.equalIgnoringCase name other = true) :
    Recased (.address name) (.address other)
  /-- An identifier. -/
  | identifier {name other : String} (h : Text.equalIgnoringCase name other = true) :
    Recased (.identifier name) (.identifier other)
  /-- A number. -/
  | number (value : UInt8) : Recased (.number value) (.number value)
  /-- A string. -/
  | string (values : List UInt8) : Recased (.string values) (.string values)

/-- A term keeps its kind. -/
theorem Term.Recased.kind_eq {term other : Term} (h : term.Recased other) :
    other.kind = term.kind := by
  cases h <;> rfl

/-- **What is spelled in another case** is in another case, unless it is a numeral or stands
in quotation marks. -/
theorem Spells.recased {text other : List Char} {term : Term} (h : Spells text term)
    (hother : Text.Recased text other)
    (hfixed : term.kind = .number ∨ term.kind = .string → other = text) :
    ∃ again, Spells other again ∧ term.Recased again := by
  have hnames : ∀ {name again : List Char}, Text.Recased name again →
      Text.equalIgnoringCase (String.ofList name) (String.ofList again) = true := by
    intro name again h
    rw [Text.equalIgnoringCase_iff_recased, String.toList_ofList, String.toList_ofList]
    exact h
  cases h with
  | label hname =>
    obtain ⟨name', colon, rfl, hname', hcolon⟩ := hother.of_append
    obtain ⟨rest, rfl, hrest⟩ := hcolon.of_cons_same (by decide)
    obtain rfl := hrest.eq_nil
    exact ⟨_, .label (hname.recased hname'), .label (hnames hname')⟩
  | address hname =>
    obtain ⟨inside, rfl, hinside⟩ := hother.of_cons_same (by decide)
    obtain ⟨name', bracket, rfl, hname', hbracket⟩ := hinside.of_append
    obtain ⟨rest, rfl, hrest⟩ := hbracket.of_cons_same (by decide)
    obtain rfl := hrest.eq_nil
    exact ⟨_, .address (hname.recased hname'), .address (hnames hname')⟩
  | number hdigits hall hbyte =>
    obtain rfl := hfixed (Or.inl rfl)
    exact ⟨_, .number hdigits hall hbyte, .number _⟩
  | string hbody hbytes =>
    obtain rfl := hfixed (Or.inr rfl)
    exact ⟨_, .string hbody hbytes, .string _⟩
  | identifier hname =>
    exact ⟨_, .identifier (hname.recased hother), .identifier (hnames hother)⟩

/-- **A token is another one in another case**, at the same place. -/
def Token.Recased (token other : Token) : Prop :=
  other.span = token.span ∧ ∃ term again, token.Says term ∧ other.Says again ∧ term.Recased again

/-- A token keeps its kind. -/
theorem Token.Recased.kind_eq {token other : Token} (h : token.Recased other) :
    other.kind = token.kind := by
  obtain ⟨-, term, again, hterm, hagain, hrecased⟩ := h
  rw [hagain.kind, hrecased.kind_eq, hterm.kind]

/-- A token that says something is what its lexeme is. -/
theorem Token.Says.ofLexeme_eq {token : Token} {term : Term} (h : token.Says term) :
    ofLexeme token.lexeme = .ok token := by
  have htoken : term.token token.lexeme = token := by
    obtain ⟨kind, literal, value, span⟩ := token
    obtain ⟨-, rfl, rfl⟩ := h
    rfl
  rw [@Spells.ofLexeme_eq token.lexeme term h.spelled, htoken]

/-- **A token that is written the same** is the same. -/
theorem Token.Recased.eq {token other : Token} (h : token.Recased other)
    (hliteral : other.literal = token.literal) : other = token := by
  obtain ⟨hspan, term, again, hterm, hagain, -⟩ := h
  have hlexeme : other.lexeme = token.lexeme := by rw [lexeme, lexeme, hliteral, hspan]
  exact Except.ok.inj (hagain.ofLexeme_eq.symm.trans (hlexeme ▸ hterm.ofLexeme_eq))

/-- A lexeme that is a token is one in another case. -/
theorem Token.exists_recased {token : Token} {lexeme other : Lexeme}
    (h : ofLexeme lexeme = .ok token) (hother : lexeme.Recased other)
    (hfixed : token.kind = .number ∨ token.kind = .string → other.text = lexeme.text) :
    ∃ again, ofLexeme other = .ok again ∧ token.Recased again := by
  obtain ⟨term, hspells, rfl⟩ := exists_spells h
  obtain ⟨again, hagain, hrecased⟩ :=
    hspells.recased hother.2 fun hkind => congrArg String.toList (hfixed hkind)
  exact ⟨again.token other, hagain.ofLexeme_eq, hother.1, term, again, Term.says_token hspells,
    Term.says_token hagain, hrecased⟩

/-- The numbers and strings among some tokens are written the same in another source text. -/
def KeepsLiterals (edited : List Char) (tokens : List Token) : Prop :=
  ∀ token ∈ tokens, token.kind = .number ∨ token.kind = .string →
    token.span.Marks edited token.literal.toList

/-- **A line in another case has the same tokens**, in another case. -/
theorem Cursor.exists_tokens_recased {edited line other : List Char} {offset : Nat}
    {row : List Token} (hline : Text.Recased line other)
    (hends : EndsLine edited ⟨offset, Text.byteLength other⟩ other)
    (h : tokens ⟨line, offset⟩ = .ok row) (hkeeps : KeepsLiterals edited row) :
    ∃ again, tokens ⟨other, offset⟩ = .ok again ∧ List.Forall₂ Token.Recased row again := by
  obtain ⟨hcuts, hread⟩ := cuts_of_tokens h
  obtain ⟨lexemes, hothers, hall⟩ := hcuts.recased hline
  rw [List.forall₂_map_left_iff] at hall
  -- a number or a string is what stands at its place, which is what it was
  have heach : List.Forall₂ (fun (token : Token) lexeme =>
      ∃ again, Token.ofLexeme lexeme = .ok again ∧ token.Recased again) row lexemes :=
    forall₂_imp_of_mem_mem hall fun token hmem lexeme hlexeme hrecased =>
      Token.exists_recased (hread token hmem) hrecased fun hkind =>
        String.toList_inj.mp ((hothers.marks hends lexeme hlexeme).eq
          (hrecased.1 ▸ hkeeps token hmem hkind))
  obtain ⟨again, hagain, hread⟩ := exists_forall₂_between
    (S := Token.Recased) (T := fun lexeme again => Token.ofLexeme lexeme = .ok again) heach
    fun token lexeme ⟨again, hlexeme, hrecased⟩ => ⟨again, hrecased, hlexeme⟩
  exact ⟨again, tokens_eq_ok_iff.mpr ⟨lexemes, hothers, hread⟩, hagain⟩

namespace Source

/-- **Lines in another case have the same tokens**, in another case. -/
theorem exists_tokensOfLines_recased {edited : List Char} {lines others : List (List Char)}
    (hsame : List.Forall₂ Text.Recased lines others) {offset : Nat} {rows : List (List Token)}
    (hlines : LinesAt edited offset others) (h : tokensOfLines lines offset = .ok rows)
    (hkeeps : KeepsLiterals edited rows.flatten) :
    ∃ again, tokensOfLines others offset = .ok again ∧
      List.Forall₂ (List.Forall₂ Token.Recased) rows again := by
  induction hsame generalizing offset rows with
  | nil =>
    obtain rfl := Except.ok.inj h
    exact ⟨[], rfl, .nil⟩
  | @cons line other lines others hline _ ih =>
    obtain ⟨row, rest, hrow, hrest, rfl⟩ := tokensOfLines_cons_eq_ok_iff.mp h
    cases hlines with
    | cons hends hlines =>
    have hflatten : (if row.isEmpty then rest else row :: rest).flatten = row ++ rest.flatten := by
      cases row <;> rfl
    unfold KeepsLiterals at hkeeps
    rw [hflatten, List.forall_mem_append] at hkeeps
    obtain ⟨again, hagain, hall⟩ := Cursor.exists_tokens_recased hline hends hrow hkeeps.1
    rw [hline.byteLength_eq] at hlines
    obtain ⟨others', hothers, hrows⟩ := ih hlines hrest hkeeps.2
    rw [← hline.byteLength_eq] at hothers
    refine ⟨_, tokensOfLines_cons_eq_ok_iff.mpr ⟨again, others', hagain, hothers, rfl⟩, ?_⟩
    cases hall with
    | nil => exact hrows
    | cons hfirst hothers => exact .cons (.cons hfirst hothers) hrows

end Source

/-! ## Source texts -/

/-- **No two tokens cover one place.** -/
theorem Tiled.eq_of_covers {source : List Char} {offset place : Nat} {rows : List (List Token)}
    (h : Tiled source offset rows) {token other : Token} (hmem : token ∈ rows.flatten)
    (hother : other ∈ rows.flatten) (hcovers : token.span.Covers place)
    (hcovers' : other.span.Covers place) : token = other := by
  have hordered := List.pairwise_iff_getElem.mp h.ordered
  obtain ⟨i, hi, rfl⟩ := List.mem_iff_getElem.mp hmem
  obtain ⟨k, hk, rfl⟩ := List.mem_iff_getElem.mp hother
  rcases Nat.lt_trichotomy i k with hlt | rfl | hgt
  · have hle := hordered i k hi hk hlt
    exact absurd (Nat.lt_of_lt_of_le hcovers.2 hle) (Nat.not_lt.mpr hcovers'.1)
  · rfl
  · have hle := hordered k i hk hi hgt
    exact absurd (Nat.lt_of_lt_of_le hcovers'.2 hle) (Nat.not_lt.mpr hcovers.1)

namespace Source

/-- **A source text with the case of letters changed** in some of its tokens. -/
def RecasedIn (source edited : String) (rows : List (List Token)) (changes : Token → Prop) : Prop :=
  Text.equalIgnoringCase source edited = true ∧
    ∀ place c d, Text.StandsAt source.toList place c → Text.StandsAt edited.toList place d →
      c ≠ d → ∃ token ∈ rows.flatten, changes token ∧ token.span.Covers place

variable {source edited : String} {rows : List (List Token)} {changes : Token → Prop}

/-- **One token written in another case** is such a change. -/
theorem RecasedIn.of_token {token : Token} {before other behind : List Char}
    (hmem : token ∈ rows.flatten) (hchanges : changes token)
    (hsource : source.toList = before ++ token.literal.toList ++ behind)
    (hstart : Text.byteLength before = token.span.start)
    (hlength : Text.byteLength token.literal.toList = token.span.length)
    (hcase : Text.Recased token.literal.toList other)
    (hedited : edited.toList = before ++ other ++ behind) :
    RecasedIn source edited rows changes := by
  constructor
  · rw [Text.equalIgnoringCase_iff_recased, hsource, hedited]
    unfold Text.Recased at hcase ⊢
    simp only [List.map_append, hcase]
  · intro place c d hc hd hne
    rw [hsource, List.append_assoc] at hc
    rw [hedited, List.append_assoc] at hd
    refine ⟨token, hmem, hchanges, Nat.not_lt.mp fun hlt => hne ?_, Nat.not_le.mp fun hle => hne ?_⟩
    · -- in front of the token
      rw [← hstart] at hlt
      exact (hc.of_lt hlt).eq (hd.of_lt hlt)
    · -- behind the token
      obtain ⟨rest, rfl⟩ := Nat.exists_eq_add_of_le hle
      rw [Span.stop, ← hstart, ← hlength, Nat.add_assoc] at hc hd
      rw [← hcase.byteLength_eq] at hd
      have hbehind := hc.of_add.of_add
      exact hbehind.eq (by simpa using hd.of_add.of_add)

/-- **All other tokens are written the same.** -/
theorem RecasedIn.marks (h : RecasedIn source edited rows changes)
    (hrows : tokens source = .ok rows) {token : Token} (hmem : token ∈ rows.flatten)
    (hstays : ¬ changes token) : token.span.Marks edited.toList token.literal.toList := by
  have htiled := Tiled.of_tokens hrows
  obtain ⟨hcase, hplaces⟩ := h
  obtain ⟨before, behind, hsource, hstart, hlength⟩ := htiled.marks token hmem
  rw [Text.equalIgnoringCase_iff_recased, hsource, List.append_assoc] at hcase
  obtain ⟨before', rest, hedited, hbefore, hrest⟩ := hcase.of_append
  obtain ⟨literal, behind', rfl, hliteral, -⟩ := hrest.of_append
  have hstart' : Text.byteLength before' = token.span.start := hbefore.byteLength_eq.trans hstart
  have hsame : token.literal.toList = literal := by
    by_contra hne
    obtain ⟨place, c, d, hc, hd, hcd⟩ := hliteral.exists_ne hne
    have hplace := hc.lt_byteLength
    rw [hlength] at hplace
    obtain ⟨other, hother, hchanges, hcovers⟩ := hplaces (token.span.start + place) c d
      (by rw [hsource, List.append_assoc]
          exact Text.standsAt_append_iff.mpr (Or.inr ⟨place, by rw [hstart],
            Text.standsAt_append_iff.mpr (Or.inl hc)⟩))
      (by rw [hedited]
          exact Text.standsAt_append_iff.mpr (Or.inr ⟨place, by rw [hstart'],
            Text.standsAt_append_iff.mpr (Or.inl hd)⟩)) hcd
    -- the token that may change is this one
    obtain rfl := htiled.eq_of_covers hother hmem hcovers
      ⟨Nat.le_add_right _ _, Nat.add_lt_add_left hplace _⟩
    exact hstays hchanges
  exact ⟨before', behind', by rw [hedited, hsame, List.append_assoc], hstart', hlength⟩

/-- **A source text has the same tokens** where the case of letters is changed in some that
are names, and all other tokens stay what they are. -/
theorem RecasedIn.exists_tokens (h : RecasedIn source edited rows changes)
    (hrows : tokens source = .ok rows)
    (hnames : ∀ token ∈ rows.flatten, changes token →
      token.kind ≠ .number ∧ token.kind ≠ .string) :
    ∃ again, tokens edited = .ok again ∧ List.Forall₂ (List.Forall₂ fun token other =>
      token.Recased other ∧ (¬ changes token → other = token)) rows again := by
  have hlines := @Text.splitOn_recased '\n' (by decide) _ _
    (Text.equalIgnoringCase_iff_recased.mp h.1)
  have hkeeps : KeepsLiterals edited.toList rows.flatten := by
    intro token hmem hkind
    refine h.marks hrows hmem fun hchanges => ?_
    obtain ⟨hnumber, hstring⟩ := hnames token hmem hchanges
    exact hkind.elim hnumber hstring
  obtain ⟨again, hagain, hall⟩ :=
    exists_tokensOfLines_recased hlines (linesAt_splitOn edited.toList) hrows hkeeps
  refine ⟨again, hagain, ?_⟩
  refine forall₂_imp_of_mem_mem hall fun row hrow row' hrow' hpair => ?_
  refine forall₂_imp_of_mem_mem hpair fun token hmem other hmem' hrecased => ?_
  refine ⟨hrecased, fun hstays => hrecased.eq ?_⟩
  have hmarks := @Tiled.of_tokens edited again hagain |>.marks other
    (List.mem_flatten_of_mem hrow' hmem')
  rw [hrecased.1] at hmarks
  exact String.toList_inj.mp
    (hmarks.eq (h.marks hrows (List.mem_flatten_of_mem hrow hmem) hstays))

end Source

end AccumulatorMachine
