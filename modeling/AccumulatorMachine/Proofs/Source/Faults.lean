import AccumulatorMachine.Proofs.Source.Tiling

/-!
# Where faults point

A fault comes with places, and `Fault.PointsInto` says for each cause what stands
there in the source. For the faults of tokens and of lines this is shown here, from
the text up: a word or a text that is never closed where the cursor stands
(`Cursor.pointsInto_of_tokens`), a token of the line behind that
(`Statement.RowFails`).

Whatever goes wrong later goes wrong in a statement, and points at one of its
tokens. `Statement.StandsIn` says of a statement where these are.
-/

namespace AccumulatorMachine

/-! ## Statements in their source -/

/-- **A token stands in a source** if its span marks what it is written as, and that
is spelled like this token. -/
structure Token.StandsIn (source : String) (token : Token) : Prop where
  /-- The span marks the token. -/
  marks : token.span.Marks source.toList token.literal.toList
  /-- What is written there is this token. -/
  spelled : ofLexeme token.lexeme = .ok token

/-- **A statement stands in a source** if its label, its mnemonic and its operands
do. -/
structure Statement.StandsIn (source : String) (statement : Statement) : Prop where
  /-- The span of the label marks the name and a colon. -/
  label : ∀ label ∈ statement.label, label.span.Marks source.toList (label.name ++ ":").toList
  /-- The span of the mnemonic marks a word that is the mnemonic in upper case. -/
  mnemonic : ∃ word : String, statement.span.Marks source.toList word.toList ∧
    Text.upperCase word = statement.mnemonic
  /-- The operands stand in the source. -/
  operands : ∀ token ∈ statement.operands, token.StandsIn source

/-- **A source text has a statement** if the tokens on one of its lines are it. -/
def Source.HasStatement (source : String) (statement : Statement) : Prop :=
  ∃ rows, tokens source = .ok rows ∧ ∃ row ∈ rows, Statement.ofTokens row = .ok statement

/-! ## What faults point at -/

/-- **What stands in the source where a fault points**, by the cause of the
fault. -/
def Fault.PointsInto (source : String) : Fault → Prop
  | unknownToken token span => span.Marks source.toList token.toList
  | invalidLiteral token _ span => span.Marks source.toList token.toList
  | unterminatedString span =>
    ∃ text, EndsLine source.toList span ('"' :: text) ∧ splitAtClosingMark text = none
  | expectedInstruction (some found) span => span.Marks source.toList found.toList
  | expectedInstruction none span =>
    ∃ rows token, Source.tokens source = .ok rows ∧ [token] ∈ rows ∧ token.kind = .label ∧
      token.span.Marks source.toList token.literal.toList ∧ span = token.span.after ∧
      span.Marks source.toList []
  | unknownInstruction mnemonic span =>
    ∃ word : String, span.Marks source.toList word.toList ∧ Text.upperCase word = mnemonic
  | unknownOperator name span => span.Marks source.toList name.toList
  | duplicateLabel label span first =>
    span.Marks source.toList (label ++ ":").toList ∧
      first.Marks source.toList (label ++ ":").toList ∧ first.stop ≤ span.start ∧
      (∃ statement, Source.HasStatement source statement ∧
        statement.label = some ⟨label, span⟩) ∧
      (∃ statement, Source.HasStatement source statement ∧
        statement.label = some ⟨label, first⟩) ∧
      ∀ statement, Source.HasStatement source statement → ∀ other ∈ statement.label,
        other.name = label → first.start ≤ other.span.start
  | wrongArity mnemonic _ found span =>
    ∃ statement, Source.HasStatement source statement ∧ statement.mnemonic = mnemonic ∧
      statement.operands.length = found ∧
      match statement.operands.getLast? with
      | some token => token.span = span ∧ span.Marks source.toList token.literal.toList
      | none => statement.span = span ∧
        ∃ word : String, span.Marks source.toList word.toList ∧ Text.upperCase word = mnemonic
  | wrongKind mnemonic index _ found span =>
    ∃ statement token, Source.HasStatement source statement ∧ statement.mnemonic = mnemonic ∧
      statement.operands[index]? = some token ∧ token.span = span ∧
      span.Marks source.toList token.literal.toList ∧
      Token.ofLexeme ⟨token.literal, span⟩ = .ok token ∧ token.kind = found
  | unresolvedReference label span => span.Marks source.toList ("[" ++ label ++ "]").toList
  | programTooLarge _ _ => True

/-! ## Faults of tokens -/

/-- A lexeme that is no token is reported as it stands. -/
theorem Token.ofLexeme_eq_error {lexeme : Lexeme} {fault : Fault}
    (h : ofLexeme lexeme = .error fault) :
    fault = .unknownToken lexeme.text lexeme.span ∨
      ∃ flaw, fault = .invalidLiteral lexeme.text flaw lexeme.span := by
  unfold ofLexeme at h
  dsimp only at h
  split at h
  · exact absurd h (by simp)
  · split at h
    · exact absurd h (by simp)
    · split at h
      · split at h
        · exact absurd h (by simp)
        · exact Or.inr ⟨_, (Except.error.inj h).symm⟩
      · split at h
        · split at h
          · exact absurd h (by simp)
          · exact Or.inr ⟨_, (Except.error.inj h).symm⟩
        · split at h
          · exact absurd h (by simp)
          · exact Or.inl (Except.error.inj h).symm

/-- **A fault in a line points into the line.** -/
theorem Cursor.pointsInto_of_tokens {source : String} {line : List Char} {offset : Nat}
    {fault : Fault} (hline : EndsLine source.toList ⟨offset, Text.byteLength line⟩ line)
    (h : tokens ⟨line, offset⟩ = .error fault) : fault.PointsInto source := by
  obtain ⟨words, hwords⟩ := exists_words line offset
  replace h := (tokens_eq_error_iff hwords).mp h
  induction hwords with
  | done | comment => exact absurd h not_isFirstFailure_nil
  | skip _ _ ih => exact ih hline.tail h
  | @word word text offset words _ _ _ ih =>
    cases hword : Token.ofLexeme (Lexeme.ofWord word offset) with
    | error other =>
      rw [hword, isFirstFailure_error_cons_iff] at h
      have hmarks : (Lexeme.ofWord word offset).span.Marks source.toList
          (Lexeme.ofWord word offset).text.toList := by
        rw [Lexeme.toList_text_ofWord]
        exact hline.marks_front
      rcases Token.ofLexeme_eq_error (h ▸ hword) with rfl | ⟨flaw, rfl⟩
      · exact hmarks
      · exact hmarks
    | ok token =>
      rw [hword, isFirstFailure_ok_cons_iff] at h
      exact ih hline.suffix h
  | @unclosed text offset hnone =>
    obtain rfl := isFirstFailure_error_cons_iff.mp h
    exact ⟨text, hline, hnone⟩

/-- **A fault in the tokens of a source text points into it.** -/
theorem Source.pointsInto_of_tokens {source : String} {fault : Fault}
    (h : tokens source = .error fault) : fault.PointsInto source := by
  unfold tokens at h
  have hlines := linesAt_splitOn source.toList
  generalize Text.splitOn '\n' source.toList = lines at h hlines
  generalize 0 = offset at h hlines
  induction hlines with
  | nil => exact absurd h (by simp [tokensOfLines])
  | @cons line lines offset hline _ ih =>
    rw [tokensOfLines] at h
    split at h
    · next other hother =>
      obtain rfl := Except.error.inj h
      exact Cursor.pointsInto_of_tokens hline hother
    · exact ih (map_eq_error_iff.mp h)

/-! ## Faults of lines -/

namespace Statement

/-- **The tokens of a statement**: a label, if it has one, the mnemonic and the
operands. -/
theorem ofTokens_eq_ok_iff {row : List Token} {statement : Statement} :
    ofTokens row = .ok statement ↔
      ∃ (front : Option Token) (word : Token), row = front.toList ++ word :: statement.operands ∧
        (∀ label ∈ front, label.kind = .label) ∧ word.kind = .identifier ∧
        statement.label = front.map Label.ofToken ∧
        statement.mnemonic = Text.upperCase word.literal ∧ statement.span = word.span := by
  constructor
  · intro h
    cases row with
    | nil => exact absurd h (by simp [ofTokens, ofRest])
    | cons token rest =>
      rw [ofTokens] at h
      by_cases hkind : token.kind = .label
      · rw [if_pos hkind] at h
        obtain ⟨word, operands, rfl, hword, rfl⟩ := ofRest_eq_ok_iff.mp h
        exact ⟨some token, word, rfl, fun other hother => Option.some.inj hother ▸ hkind, hword,
          rfl, rfl, rfl⟩
      · rw [if_neg hkind] at h
        obtain ⟨word, operands, heq, hword, rfl⟩ := ofRest_eq_ok_iff.mp h
        exact ⟨none, word, heq, fun other hother => absurd hother (by simp), hword, rfl, rfl, rfl⟩
  · obtain ⟨label, mnemonic, span, operands⟩ := statement
    rintro ⟨front, word, rfl, hfront, hword, rfl, rfl, rfl⟩
    cases front with
    | none =>
      have hlabel : word.kind ≠ .label := by rw [hword]; decide
      exact (if_neg hlabel).trans (ofRest_eq_ok_iff.mpr ⟨word, operands, rfl, hword, rfl⟩)
    | some token =>
      exact (if_pos (hfront token rfl)).trans
        (ofRest_eq_ok_iff.mpr ⟨word, operands, rfl, hword, rfl⟩)

/-- **A row of tokens is a statement's** if an identifier leads it, behind a label if there
is one. -/
def IsStatementRow (row : List Token) : Prop :=
  ∃ (front : Option Token) (word : Token) (operands : List Token),
    row = front.toList ++ word :: operands ∧ (∀ label ∈ front, label.kind = .label) ∧
      word.kind = .identifier

/-- **What a row of tokens fails with** that is no statement's. -/
inductive RowFails : List Token → Fault → Prop
  /-- There is nothing behind the label. -/
  | labelAlone {label : Token} (hlabel : label.kind = .label) :
    RowFails [label] (.expectedInstruction none label.span.after)
  /-- There is no identifier behind the label. -/
  | behindLabel {label token : Token} {rest : List Token} (hlabel : label.kind = .label)
    (htoken : token.kind ≠ .identifier) :
    RowFails (label :: token :: rest) (.expectedInstruction (some token.literal) token.span)
  /-- There is neither a label nor an identifier in front. -/
  | inFront {token : Token} {rest : List Token} (hlabel : token.kind ≠ .label)
    (htoken : token.kind ≠ .identifier) :
    RowFails (token :: rest) (.expectedInstruction (some token.literal) token.span)

/-- What stands where the mnemonic should is a fault if it is no identifier. -/
theorem ofRest_cons_eq_error_iff {label : Option Label} {token : Token} {rest : List Token}
    {fault : Fault} :
    ofRest label (token :: rest) = .error fault ↔
      token.kind ≠ .identifier ∧
        fault = .expectedInstruction (some token.literal) token.span := by
  rw [ofRest]
  by_cases hkind : token.kind = .identifier
  · simp [hkind]
  · rw [if_neg hkind, Except.error.injEq, eq_comm]
    exact (and_iff_right hkind).symm

/-- **Tokens are no statement** if their row is none. -/
theorem ofTokens_eq_error_iff {row : List Token} (hne : row ≠ []) {fault : Fault} :
    ofTokens row = .error fault ↔ RowFails row fault := by
  obtain ⟨token, rest, rfl⟩ := List.exists_cons_of_ne_nil hne
  rw [ofTokens]
  by_cases hkind : token.kind = .label
  · have hidentifier : token.kind ≠ .identifier := by rw [hkind]; decide
    rw [if_pos hkind]
    cases rest with
    | nil =>
      constructor
      · intro h
        obtain rfl := Except.error.inj h
        exact .labelAlone hkind
      · rintro (- | - | ⟨hlabel, -⟩)
        · rfl
        · exact absurd hkind hlabel
    | cons second rest =>
      rw [ofRest_cons_eq_error_iff]
      constructor
      · rintro ⟨hsecond, rfl⟩
        exact .behindLabel hkind hsecond
      · rintro (- | ⟨-, hsecond⟩ | ⟨hlabel, -⟩)
        · exact ⟨hsecond, rfl⟩
        · exact absurd hkind hlabel
  · rw [if_neg hkind, ofRest_cons_eq_error_iff]
    constructor
    · rintro ⟨htoken, rfl⟩
      exact .inFront hkind htoken
    · rintro (⟨hlabel⟩ | ⟨hlabel, -⟩ | ⟨-, htoken⟩)
      · exact absurd hlabel hkind
      · exact absurd hlabel hkind
      · exact ⟨htoken, rfl⟩

/-- **Tokens are a statement** if their row is one's. -/
theorem exists_ofTokens_iff {row : List Token} :
    (∃ statement, ofTokens row = .ok statement) ↔ IsStatementRow row := by
  simp only [ofTokens_eq_ok_iff]
  constructor
  · rintro ⟨statement, front, word, hrow, hfront, hword, -⟩
    exact ⟨front, word, _, hrow, hfront, hword⟩
  · rintro ⟨front, word, operands, hrow, hfront, hword⟩
    exact ⟨⟨_, _, _, operands⟩, front, word, hrow, hfront, hword, rfl, rfl, rfl⟩

/-- A row of tokens fails exactly if it is no statement's. -/
theorem exists_rowFails_iff {row : List Token} (hne : row ≠ []) :
    (∃ fault, RowFails row fault) ↔ ¬ IsStatementRow row := by
  simp only [← ofTokens_eq_error_iff hne, ← exists_ofTokens_iff]
  cases ofTokens row with
  | error fault => simp
  | ok statement => simp

end Statement

/-- The tokens of a source text stand in it. -/
theorem Token.standsIn_of_tokens {source : String} {rows : List (List Token)}
    (h : Source.tokens source = .ok rows) {row : List Token} (hrow : row ∈ rows) {token : Token}
    (hmem : token ∈ row) : token.StandsIn source where
  marks := (Tiled.of_tokens h).marks token (List.mem_flatten_of_mem hrow hmem)
  spelled := ((Source.written_of_tokens h row hrow).2 token hmem).spelled

/-- **A fault in the lines of a source text points into it.** -/
theorem Statement.pointsInto_of_ofLines {source : String} {rows : List (List Token)}
    {fault : Fault} (hrows : Source.tokens source = .ok rows) (h : ofLines rows = .error fault) :
    fault.PointsInto source := by
  obtain ⟨row, hrow, hfault⟩ := exists_mem_of_mapM_eq_error h
  have hstands : ∀ token ∈ row, token.span.Marks source.toList token.literal.toList :=
    fun token hmem => (Token.standsIn_of_tokens hrows hrow hmem).marks
  cases (ofTokens_eq_error_iff (Source.written_of_tokens hrows row hrow).1).mp hfault with
  | @labelAlone token hkind =>
    have hmarks := hstands token List.mem_cons_self
    exact ⟨rows, token, hrows, hrow, hkind, hmarks, rfl, hmarks.after⟩
  | @behindLabel _ token => exact hstands token (List.mem_cons_of_mem _ List.mem_cons_self)
  | @inFront token => exact hstands token List.mem_cons_self

/-! ## Statements stand in their source -/

/-- A token of a label is a name and a colon. -/
theorem Token.Says.of_label {token : Token} {term : Term} (h : token.Says term)
    (hkind : token.kind = .label) : ∃ name, term = .label name ∧ token.literal = name ++ ":" := by
  obtain ⟨hspells, hterm, -⟩ := h
  generalize htext : token.literal.toList = text at hspells
  cases hspells with
  | @label name hname =>
    refine ⟨_, rfl, String.toList_inj.mp ?_⟩
    rw [htext]
    simp
  | address | number | string | identifier =>
    rw [hkind] at hterm
    exact absurd hterm (by simp [Term.kind])

/-- A token that stands in a source says a term. -/
theorem Token.StandsIn.exists_says {source : String} {token : Token} (h : token.StandsIn source) :
    ∃ term, token.Says term := by
  obtain ⟨term, hspells, htoken⟩ := exists_spells h.spelled
  exact ⟨term, htoken ▸ Term.says_token hspells⟩

/-- **A statement of a source text stands in it.** -/
theorem Source.HasStatement.standsIn {source : String} {statement : Statement}
    (h : HasStatement source statement) : statement.StandsIn source := by
  obtain ⟨rows, hrows, row, hrow, hstatement⟩ := h
  obtain ⟨front, word, rfl, hkind, -, hlabel, hmnemonic, hspan⟩ :=
    Statement.ofTokens_eq_ok_iff.mp hstatement
  have hstands : ∀ token ∈ front.toList ++ word :: statement.operands, token.StandsIn source :=
    fun token hmem => Token.standsIn_of_tokens hrows hrow hmem
  refine ⟨fun label hmem => ?_, ⟨word.literal, ?_, hmnemonic.symm⟩, fun token hmem => ?_⟩
  · rw [hlabel] at hmem
    obtain ⟨token, hfront, rfl⟩ := Option.map_eq_some_iff.mp hmem
    have htoken := hstands token (List.mem_append_left _ (Option.mem_toList.mpr hfront))
    obtain ⟨term, hsaid⟩ := htoken.exists_says
    obtain ⟨name, rfl, hliteral⟩ := hsaid.of_label (hkind token hfront)
    rw [Statement.name_ofToken hsaid, ← hliteral]
    exact htoken.marks
  · rw [hspan]
    exact (hstands word (List.mem_append_right _ List.mem_cons_self)).marks
  · exact hstands token (List.mem_append_right _ (List.mem_cons_of_mem word hmem))

end AccumulatorMachine
