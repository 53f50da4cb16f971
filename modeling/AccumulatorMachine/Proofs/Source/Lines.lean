import AccumulatorMachine.Proofs.Source.Cuts
import AccumulatorMachine.Proofs.Text.Split
import AccumulatorMachine.Source.Statement

/-!
# From text to statements

`Token.Says` relates a token to the term that it is written for, and
`WritesTerms` a line of text to the terms on it. Through the two a source text
and its statements are compared without a word about spans: `Source.tokens`
succeeds exactly if every line writes terms, and what it gives says the terms of
the lines that have any.
-/

namespace AccumulatorMachine

/-! ## Tokens and terms -/

/-- **A token says a term** if it is written like it, and is of its kind and
value. -/
structure Token.Says (token : Token) (term : Term) : Prop where
  /-- The token is written as the term is. -/
  spelled : Spells token.literal.toList term
  /-- The kinds are the same. -/
  kind : token.kind = term.kind
  /-- The values are the same. -/
  value : token.value = term.value

/-- A token of an identifier is written as the name that it says. -/
theorem Token.Says.of_identifier {token : Token} {term : Term} (h : token.Says term)
    (hkind : token.kind = .identifier) :
    ∃ word, term = .identifier word ∧ token.literal = word ∧ IsName word.toList := by
  obtain ⟨hspells, hterm, -⟩ := h
  generalize htext : token.literal.toList = text at hspells
  cases hspells with
  | @identifier name hname =>
    refine ⟨_, rfl, ?_, ?_⟩
    · rw [← htext, String.ofList_toList]
    · rw [String.toList_ofList]
      exact hname
  | label | address | number | string =>
    rw [hkind] at hterm
    exact absurd hterm (by simp [Term.kind])

/-- The token that a term is says it. -/
theorem Term.says_token {term : Term} {lexeme : Lexeme} (h : Spells lexeme.text.toList term) :
    (term.token lexeme).Says term :=
  ⟨h, rfl, rfl⟩

/-- **A line of text writes terms** if the words that it is cut into spell
them. -/
def WritesTerms (line : List Char) (terms : List Term) : Prop :=
  ∃ lexemes, Cuts line 0 lexemes ∧
    List.Forall₂ (fun lexeme term => Spells lexeme.text.toList term) lexemes terms

/-- **Where a line begins makes no difference** to the words on it. -/
theorem Cuts.move {line : List Char} {offset : Nat} {lexemes : List Lexeme}
    (h : Cuts line offset lexemes) (start : Nat) :
    ∃ moved, Cuts line start moved ∧
      List.Forall₂ (fun lexeme other => lexeme.text = other.text) lexemes moved := by
  induction h generalizing start with
  | done => exact ⟨[], .done, .nil⟩
  | comment => exact ⟨[], .comment, .nil⟩
  | @skip c text offset lexemes hseparator _ ih =>
    obtain ⟨moved, hmoved, hsame⟩ := ih (start + c.utf8Size)
    exact ⟨moved, .skip hseparator hmoved, hsame⟩
  | @word word text offset lexemes hword hend _ ih =>
    obtain ⟨moved, hmoved, hsame⟩ := ih (start + Text.byteLength word)
    exact ⟨_, .word hword hend hmoved, .cons rfl hsame⟩

/-- The terms of a line are spelled by the words that it is cut into, wherever
it begins. -/
theorem writesTerms_iff {line : List Char} {terms : List Term} (offset : Nat) :
    WritesTerms line terms ↔
      ∃ lexemes, Cuts line offset lexemes ∧
        List.Forall₂ (fun lexeme term => Spells lexeme.text.toList term) lexemes terms := by
  have hmove : ∀ (lexeme other : Lexeme) (term : Term), lexeme.text = other.text →
      Spells lexeme.text.toList term → Spells other.text.toList term :=
    fun lexeme other term hsame hspells => hsame ▸ hspells
  constructor
  · rintro ⟨lexemes, hcuts, hspells⟩
    obtain ⟨moved, hmoved, hsame⟩ := hcuts.move offset
    exact ⟨moved, hmoved, forall₂_of_forall₂ hsame hspells hmove⟩
  · rintro ⟨lexemes, hcuts, hspells⟩
    obtain ⟨moved, hmoved, hsame⟩ := hcuts.move 0
    exact ⟨moved, hmoved, forall₂_of_forall₂ hsame hspells hmove⟩

/-- The tokens of a line say the terms on it. -/
theorem Cursor.writesTerms_of_tokens {line : List Char} {offset : Nat} {found : List Token}
    (h : tokens ⟨line, offset⟩ = .ok found) :
    ∃ terms, WritesTerms line terms ∧ List.Forall₂ Token.Says found terms := by
  obtain ⟨lexemes, hcuts, htokens⟩ := tokens_eq_ok_iff.mp h
  obtain ⟨terms, hspells, hsaid⟩ := exists_forall₂_between htokens fun lexeme token htoken => by
    obtain ⟨term, hspells, rfl⟩ := Token.exists_spells htoken
    exact ⟨term, hspells, Term.says_token hspells⟩
  exact ⟨terms, (writesTerms_iff offset).mpr ⟨lexemes, hcuts, hspells⟩, hsaid⟩

/-- **A line that writes terms has tokens**, which say them. -/
theorem WritesTerms.exists_tokens {line : List Char} {terms : List Term}
    (h : WritesTerms line terms) (offset : Nat) :
    ∃ found, Cursor.tokens ⟨line, offset⟩ = .ok found ∧ List.Forall₂ Token.Says found terms := by
  obtain ⟨lexemes, hcuts, hspells⟩ := (writesTerms_iff offset).mp h
  obtain ⟨found, hfound, hsaid⟩ := exists_forall₂_between
    (S := fun lexeme token => Token.ofLexeme lexeme = .ok token) (T := flip Token.Says) hspells
    fun lexeme term hterm => ⟨term.token lexeme, hterm.ofLexeme_eq, Term.says_token hterm⟩
  exact ⟨found, Cursor.tokens_eq_ok_iff.mpr ⟨lexemes, hcuts, hfound⟩, hsaid.flip⟩

/-! ## Lines -/

namespace Source

/-- **One more line** adds its tokens, if it has any. -/
theorem tokensOfLines_cons_eq_ok_iff {line : List Char} {lines : List (List Char)} {offset : Nat}
    {found : List (List Token)} :
    tokensOfLines (line :: lines) offset = .ok found ↔
      ∃ tokens others, Cursor.tokens ⟨line, offset⟩ = .ok tokens ∧
        tokensOfLines lines (offset + Text.byteLength line + 1) = .ok others ∧
        (if tokens.isEmpty then others else tokens :: others) = found := by
  rw [tokensOfLines]
  constructor
  · intro h
    split at h
    · exact absurd h (by simp)
    · next tokens hline =>
      obtain ⟨others, hothers, rfl⟩ := map_eq_ok_iff.mp h
      exact ⟨tokens, others, hline, hothers, rfl⟩
  · rintro ⟨tokens, others, hline, hothers, rfl⟩
    rw [Cursor.ofLine, hline, hothers]
    rfl

/-- The tokens of lines say the terms of those that have any. -/
theorem writesTerms_of_tokensOfLines {lines : List (List Char)} {offset : Nat}
    {found : List (List Token)} (h : tokensOfLines lines offset = .ok found) :
    ∃ terms, List.Forall₂ WritesTerms lines terms ∧
      List.Forall₂ (List.Forall₂ Token.Says) found (terms.filter (· ≠ [])) := by
  induction lines generalizing offset found with
  | nil =>
    obtain rfl := Except.ok.inj h
    exact ⟨[], .nil, .nil⟩
  | cons line lines ih =>
    obtain ⟨tokens, others, hline, hlines, rfl⟩ := tokensOfLines_cons_eq_ok_iff.mp h
    obtain ⟨first, hfirst, hsaid⟩ := Cursor.writesTerms_of_tokens hline
    obtain ⟨rest, hrest, hothers⟩ := ih hlines
    refine ⟨first :: rest, .cons hfirst hrest, ?_⟩
    -- a line without tokens leaves nothing behind, and neither does one without terms
    cases hsaid with
    | nil => exact hothers
    | cons hhead htail => exact .cons (.cons hhead htail) hothers

/-- **Lines that write terms have tokens**, which say them. -/
theorem exists_tokensOfLines {lines : List (List Char)} {terms : List (List Term)}
    (h : List.Forall₂ WritesTerms lines terms) (offset : Nat) :
    ∃ found, tokensOfLines lines offset = .ok found ∧
      List.Forall₂ (List.Forall₂ Token.Says) found (terms.filter (· ≠ [])) := by
  induction h generalizing offset with
  | nil => exact ⟨[], rfl, .nil⟩
  | @cons line first _ rest hline _ ih =>
    obtain ⟨tokens, htokens, hsaid⟩ := hline.exists_tokens offset
    obtain ⟨others, hothers, hrest⟩ := ih (offset + Text.byteLength line + 1)
    refine ⟨_, tokensOfLines_cons_eq_ok_iff.mpr ⟨tokens, others, htokens, hothers, rfl⟩, ?_⟩
    cases hsaid with
    | nil => exact hrest
    | cons hhead htail => exact .cons (.cons hhead htail) hrest

end Source

/-! ## Statements -/

/-- **A line of a program**: a label, if it has one, an identifier and
operands. -/
structure SourceLine where
  /-- The label in front. -/
  label : Option String
  /-- The identifier. -/
  word : String
  /-- The operands. -/
  operands : List Term
  deriving DecidableEq

/-- The terms of a line in order. -/
def SourceLine.terms (line : SourceLine) : List Term :=
  (line.label.map Term.label).toList ++ .identifier line.word :: line.operands

/-- A line of a program has terms. -/
theorem SourceLine.terms_ne_nil (line : SourceLine) : line.terms ≠ [] :=
  List.append_ne_nil_of_right_ne_nil _ (List.cons_ne_nil _ _)

namespace Statement

/-- **A statement says a line** if it has its label and its operands, and the
upper case of its identifier as the mnemonic. -/
structure Says (statement : Statement) (line : SourceLine) : Prop where
  /-- The labels are the same. -/
  label : statement.label.map Label.name = line.label
  /-- The mnemonic is the identifier in upper case. -/
  mnemonic : statement.mnemonic = Text.upperCase line.word
  /-- The identifier is a name. -/
  name : IsName line.word.toList
  /-- The operands are the same. -/
  operands : List.Forall₂ Token.Says statement.operands line.operands

/-- The statement behind a label, if there is one. -/
theorem ofRest_eq_ok_iff {label : Option Label} {tokens : List Token} {statement : Statement} :
    ofRest label tokens = .ok statement ↔
      ∃ token operands, tokens = token :: operands ∧ token.kind = .identifier ∧
        statement = ⟨label, Text.upperCase token.literal, token.span, operands⟩ := by
  cases tokens with
  | nil => exact ⟨fun h => absurd h (by simp [ofRest]), fun ⟨_, _, h, _⟩ => absurd h (by simp)⟩
  | cons token operands =>
    rw [ofRest]
    by_cases hkind : token.kind = .identifier
    · rw [if_pos hkind]
      constructor
      · intro h
        exact ⟨token, operands, rfl, hkind, (Except.ok.inj h).symm⟩
      · rintro ⟨first, others, heq, -, rfl⟩
        obtain ⟨rfl, rfl⟩ := List.cons.inj heq
        rfl
    · rw [if_neg hkind]
      refine ⟨fun h => absurd h (by simp), ?_⟩
      rintro ⟨first, others, heq, hfirst, -⟩
      obtain ⟨rfl, rfl⟩ := List.cons.inj heq
      exact absurd hfirst hkind

/-- Tokens behind a label that are a statement say the rest of a line. -/
theorem says_of_ofRest {label : Option Label} {tokens : List Token} {terms : List Term}
    {statement : Statement} (hsaid : List.Forall₂ Token.Says tokens terms)
    (h : ofRest label tokens = .ok statement) :
    ∃ word operands, terms = .identifier word :: operands ∧
      statement.Says ⟨label.map Label.name, word, operands⟩ := by
  obtain ⟨token, rest, rfl, hkind, rfl⟩ := ofRest_eq_ok_iff.mp h
  obtain ⟨term, operands, hterm, hoperands, rfl⟩ := List.forall₂_cons_left_iff.mp hsaid
  obtain ⟨word, rfl, hliteral, hname⟩ := hterm.of_identifier hkind
  exact ⟨word, operands, rfl, rfl, hliteral ▸ rfl, hname, hoperands⟩

/-- Tokens that say the rest of a line are a statement behind a label. -/
theorem exists_ofRest (label : Option Label) {tokens : List Token} {word : String}
    {operands : List Term}
    (hsaid : List.Forall₂ Token.Says tokens (.identifier word :: operands)) :
    ∃ statement, ofRest label tokens = .ok statement ∧
      statement.Says ⟨label.map Label.name, word, operands⟩ := by
  obtain ⟨token, rest, hterm, hoperands, rfl⟩ := List.forall₂_cons_right_iff.mp hsaid
  obtain ⟨_, heq, hliteral, hname⟩ := hterm.of_identifier hterm.kind
  obtain rfl := Term.identifier.inj heq
  exact ⟨_, ofRest_eq_ok_iff.mpr ⟨token, rest, rfl, hterm.kind, rfl⟩, rfl, hliteral ▸ rfl, hname,
    hoperands⟩

/-- The name of a label token is the name that it says. -/
theorem name_ofToken {token : Token} {name : String} (h : token.Says (.label name)) :
    (Label.ofToken token).name = name := by
  show token.name?.getD "" = name
  unfold Token.name?
  rw [h.value]
  rfl

/-- **Tokens that are a statement say a line**, and the statement says it too. -/
theorem says_of_ofTokens {tokens : List Token} {terms : List Term} {statement : Statement}
    (hsaid : List.Forall₂ Token.Says tokens terms) (h : ofTokens tokens = .ok statement) :
    ∃ line : SourceLine, terms = line.terms ∧ statement.Says line := by
  cases hsaid with
  | nil => exact absurd h (by simp [ofTokens, ofRest])
  | @cons token term rest others hterm hrest =>
    rw [ofTokens] at h
    by_cases hkind : token.kind = .label
    · rw [if_pos hkind] at h
      obtain ⟨word, operands, rfl, hline⟩ := says_of_ofRest hrest h
      rw [hterm.kind] at hkind
      cases term with
      | label name =>
        rw [Option.map_some, name_ofToken hterm] at hline
        exact ⟨_, rfl, hline⟩
      | _ => exact absurd hkind (by simp [Term.kind])
    · rw [if_neg hkind] at h
      obtain ⟨word, operands, hterms, hline⟩ := says_of_ofRest (.cons hterm hrest) h
      exact ⟨⟨none, word, operands⟩, hterms, hline⟩

/-- **Tokens that say a line are a statement**, which says it too. -/
theorem exists_ofTokens {tokens : List Token} {line : SourceLine}
    (hsaid : List.Forall₂ Token.Says tokens line.terms) :
    ∃ statement, ofTokens tokens = .ok statement ∧ statement.Says line := by
  obtain ⟨label, word, operands⟩ := line
  cases label with
  | none =>
    obtain ⟨statement, hstatement, hline⟩ := exists_ofRest none hsaid
    obtain ⟨token, rest, hterm, -, rfl⟩ := List.forall₂_cons_right_iff.mp hsaid
    have hkind : token.kind ≠ .label := by
      rw [hterm.kind]
      simp [Term.kind]
    exact ⟨statement, by rw [ofTokens, if_neg hkind, hstatement], hline⟩
  | some name =>
    obtain ⟨token, rest, hterm, hrest, rfl⟩ := List.forall₂_cons_right_iff.mp hsaid
    obtain ⟨statement, hstatement, hline⟩ := exists_ofRest (some (.ofToken token)) hrest
    rw [Option.map_some, name_ofToken hterm] at hline
    have hkind : token.kind = .label := hterm.kind
    exact ⟨statement, by rw [ofTokens, if_pos hkind, hstatement], hline⟩

end Statement

/-! ## Programs -/

/-- **A source text writes a program** if it is lines joined by line feeds, each of
which writes terms, and the terms of the lines that have any are the lines of the
program. -/
def WritesProgram (source : String) (program : List SourceLine) : Prop :=
  ∃ lines terms, lines ≠ [] ∧ (∀ line ∈ lines, '\n' ∉ line) ∧
    Text.joinWith '\n' lines = source.toList ∧ List.Forall₂ WritesTerms lines terms ∧
    terms.filter (· ≠ []) = program.map SourceLine.terms

/-- The statements of a source text say the program that it writes. -/
theorem writesProgram_of_ofLines {source : String} {lines : List (List Token)}
    {statements : List Statement} (hlines : Source.tokens source = .ok lines)
    (hstatements : Statement.ofLines lines = .ok statements) :
    ∃ program, WritesProgram source program ∧ List.Forall₂ Statement.Says statements program := by
  obtain ⟨terms, hterms, hsaid⟩ := Source.writesTerms_of_tokensOfLines hlines
  have hboth : List.Forall₂ (fun terms statement =>
      ∃ line : SourceLine, terms = line.terms ∧ Statement.Says statement line)
      (terms.filter (· ≠ [])) statements :=
    forall₂_of_forall₂ hsaid (mapM_eq_ok_iff.mp hstatements)
      fun tokens terms statement htokens hstatement => Statement.says_of_ofTokens htokens hstatement
  obtain ⟨program, hprogram, hlines⟩ := exists_forall₂_between
    (S := fun terms (line : SourceLine) => terms = line.terms) hboth fun terms statement h => h
  obtain ⟨hne, hnone, hjoin⟩ := Text.splitOn_eq_iff.mp (rfl : Text.splitOn '\n' source.toList = _)
  exact ⟨program, ⟨_, terms, hne, hnone, hjoin, hterms, eq_map_iff_forall₂.mpr hprogram⟩, hlines⟩

/-- **A source text that writes a program has statements**, which say it. -/
theorem WritesProgram.exists_ofLines {source : String} {program : List SourceLine}
    (h : WritesProgram source program) :
    ∃ lines statements, Source.tokens source = .ok lines ∧
      Statement.ofLines lines = .ok statements ∧
      List.Forall₂ Statement.Says statements program := by
  obtain ⟨texts, terms, hne, hnone, hjoin, hterms, hprogram⟩ := h
  rw [← Text.splitOn_eq_iff.mpr ⟨hne, hnone, hjoin⟩] at hterms
  obtain ⟨lines, hlines, hsaid⟩ := Source.exists_tokensOfLines hterms 0
  rw [hprogram, List.forall₂_map_right_iff] at hsaid
  obtain ⟨statements, hstatements, hall⟩ := exists_forall₂_between
    (S := fun tokens statement => Statement.ofTokens tokens = .ok statement)
    (T := fun line statement => Statement.Says statement line) hsaid
    fun tokens line htokens => Statement.exists_ofTokens htokens
  exact ⟨lines, statements, hlines, mapM_eq_ok_iff.mpr hstatements, hall.flip⟩

end AccumulatorMachine
