import AccumulatorMachine.Proofs.Source.Faults

/-!
# Rows of tokens and statements

A row of tokens is a statement's if an identifier leads it, behind a label if there is
one. Nothing of the row is lost then: `Statement.MadeOf` puts the tokens of a statement
together again. Otherwise something else stands where the mnemonic should, or nothing at
all, and `Statement.MissesMnemonic` says what is reported and where.

All this is about any tokens, also those that no source text has: their kinds and their
values need not fit together, and a row may be empty. `Statement.ofLines_eq_ok_iff` and
`Statement.ofLines_eq_error_iff_first` say what becomes of rows of them.
-/

namespace AccumulatorMachine

namespace Statement

/-- **A statement is made of a row of tokens**: its label, if it has one, its mnemonic and
its operands are the tokens of the row, in this order and with their places. The operands
are kept as they are, of the mnemonic the upper case, and of the label the name that its
token holds, if it holds one. -/
def MadeOf (statement : Statement) (row : List Token) : Prop :=
  ∃ (front : Option Token) (word : Token), row = front.toList ++ word :: statement.operands ∧
    (∀ label ∈ front, label.kind = .label) ∧ word.kind = .identifier ∧
    statement.label = front.map (fun label => ⟨label.name?.getD "", label.span⟩) ∧
    statement.mnemonic = Text.upperCase word.literal ∧ statement.span = word.span

/-- **What stands where the mnemonic of a row should**, and where that is. -/
inductive MissesMnemonic : List Token → Option String → Span → Prop
  /-- There is nothing, behind the label if there is one and else at the beginning. -/
  | nothing {front : Option Token} (hfront : ∀ label ∈ front, label.kind = .label) :
    MissesMnemonic front.toList none ⟨(front.map fun label => label.span.stop).getD 0, 0⟩
  /-- There is a token that is no identifier, and no label that a mnemonic could follow. -/
  | other {front : Option Token} {token : Token} {rest : List Token}
    (hfront : ∀ label ∈ front, label.kind = .label) (hlabel : front = none → token.kind ≠ .label)
    (htoken : token.kind ≠ .identifier) :
    MissesMnemonic (front.toList ++ token :: rest) (some token.literal) token.span

/-- **Tokens are a statement** exactly if it is made of them. -/
theorem ofTokens_eq_ok_iff_madeOf {row : List Token} {statement : Statement} :
    ofTokens row = .ok statement ↔ statement.MadeOf row :=
  ofTokens_eq_ok_iff

/-- **Tokens are no statement** because of what stands where the mnemonic should. -/
theorem ofTokens_eq_error_iff_misses {row : List Token} {fault : Fault} :
    ofTokens row = .error fault ↔
      ∃ found span, MissesMnemonic row found span ∧ fault = .expectedInstruction found span := by
  constructor
  · intro h
    rcases row with _ | ⟨token, rest⟩
    · exact ⟨none, ⟨0, 0⟩, @MissesMnemonic.nothing none (by simp), (Except.error.inj h).symm⟩
    · cases (ofTokens_eq_error_iff (List.cons_ne_nil token rest)).mp h with
      | labelAlone hlabel =>
        exact ⟨_, _, @MissesMnemonic.nothing (some token) (by simpa using hlabel), rfl⟩
      | behindLabel hlabel htoken =>
        exact ⟨_, _, @MissesMnemonic.other (some token) _ _ (by simpa using hlabel) (by simp)
          htoken, rfl⟩
      | inFront hlabel htoken =>
        exact ⟨_, _, @MissesMnemonic.other none _ _ (by simp) (fun _ => hlabel) htoken, rfl⟩
  · rintro ⟨found, span, hmisses, rfl⟩
    cases hmisses with
    | @nothing front hfront =>
      cases front with
      | none => rfl
      | some label =>
        exact (ofTokens_eq_error_iff (List.cons_ne_nil _ _)).mpr (.labelAlone (hfront label rfl))
    | @other front token rest hfront hlabel htoken =>
      cases front with
      | none =>
        exact (ofTokens_eq_error_iff (List.cons_ne_nil _ _)).mpr (.inFront (hlabel rfl) htoken)
      | some label =>
        exact (ofTokens_eq_error_iff (List.cons_ne_nil _ _)).mpr
          (.behindLabel (hfront label rfl) htoken)

/-- A row misses its mnemonic exactly if it is no statement's. -/
theorem exists_missesMnemonic_iff {row : List Token} :
    (∃ found span, MissesMnemonic row found span) ↔ ¬ IsStatementRow row := by
  rw [← exists_ofTokens_iff]
  constructor
  · rintro ⟨found, span, hmisses⟩ ⟨statement, hstatement⟩
    have hfault := ofTokens_eq_error_iff_misses.mpr ⟨found, span, hmisses, rfl⟩
    exact absurd (hfault.symm.trans hstatement) (by simp)
  · intro hnone
    cases h : ofTokens row with
    | ok statement => exact absurd ⟨statement, h⟩ hnone
    | error fault =>
      obtain ⟨found, span, hmisses, -⟩ := ofTokens_eq_error_iff_misses.mp h
      exact ⟨found, span, hmisses⟩

/-- Rows of tokens are statements that are made of them, one by one. -/
theorem ofLines_eq_ok_iff {rows : List (List Token)} {statements : List Statement} :
    ofLines rows = .ok statements ↔ List.Forall₂ MadeOf statements rows := by
  unfold ofLines
  rw [mapM_eq_ok_iff]
  simp only [ofTokens_eq_ok_iff_madeOf]
  exact ⟨List.Forall₂.flip, List.Forall₂.flip⟩

/-- Rows of tokens are statements exactly if each row is one's. -/
theorem exists_ofLines_iff {rows : List (List Token)} :
    (∃ statements, ofLines rows = .ok statements) ↔ ∀ row ∈ rows, IsStatementRow row := by
  unfold ofLines
  simp only [mapM_eq_ok_iff, exists_forall₂_iff, exists_ofTokens_iff]

/-- **Rows of tokens are no statements** because of the first that is none. -/
theorem ofLines_eq_error_iff_first {rows : List (List Token)} {fault : Fault} :
    ofLines rows = .error fault ↔
      ∃ before row behind found span, rows = before ++ row :: behind ∧
        (∀ earlier ∈ before, IsStatementRow earlier) ∧ MissesMnemonic row found span ∧
        fault = .expectedInstruction found span := by
  unfold ofLines
  rw [mapM_eq_error_iff, isFirstFailure_map_iff]
  simp only [exists_ofTokens_iff, ofTokens_eq_error_iff_misses]
  constructor
  · rintro ⟨before, row, behind, hrows, hbefore, found, span, hmisses, hfault⟩
    exact ⟨before, row, behind, found, span, hrows, hbefore, hmisses, hfault⟩
  · rintro ⟨before, row, behind, found, span, hrows, hbefore, hmisses, hfault⟩
    exact ⟨before, row, behind, hrows, hbefore, found, span, hmisses, hfault⟩

/-- **Nothing of the tokens is lost, and the first bad row is reported.** Rows of any tokens
are statements exactly if each of them is an optional label, an identifier and any tokens
behind it; then there is one statement for each row, in order, and it is made of the tokens
of the row. Otherwise the fault is that of the first row that is not so: what stands where
its mnemonic should, at its place, or the end of the line, with an empty place behind the
label that stands alone or at the beginning. -/
theorem ofLines_made (rows : List (List Token)) :
    ((∃ statements, ofLines rows = .ok statements) ↔ ∀ row ∈ rows, IsStatementRow row) ∧
    (∀ statements, ofLines rows = .ok statements ↔ List.Forall₂ MadeOf statements rows) ∧
    (∀ fault, ofLines rows = .error fault ↔
      ∃ before row behind found span, rows = before ++ row :: behind ∧
        (∀ earlier ∈ before, IsStatementRow earlier) ∧ MissesMnemonic row found span ∧
        fault = .expectedInstruction found span ∧
        fault.message = "Expected instruction, found `" ++ found.getD "end of line" ++ "`") ∧
    ∀ row, (∃ found span, MissesMnemonic row found span) ↔ ¬ IsStatementRow row := by
  refine ⟨exists_ofLines_iff, fun statements => ofLines_eq_ok_iff, fun fault => ?_,
    fun row => exists_missesMnemonic_iff⟩
  rw [ofLines_eq_error_iff_first]
  constructor
  · rintro ⟨before, row, behind, found, span, hrows, hbefore, hmisses, rfl⟩
    exact ⟨before, row, behind, found, span, hrows, hbefore, hmisses, rfl, rfl⟩
  · rintro ⟨before, row, behind, found, span, hrows, hbefore, hmisses, hfault, -⟩
    exact ⟨before, row, behind, found, span, hrows, hbefore, hmisses, hfault⟩

/-- A label token that holds a byte in front of an identifier that holds none of its
letters, and an empty row between two rows that are not statements'. -/
theorem ofLines_made_handMade :
    let label : Token := ⟨.label, "l:", .byte 7, ⟨0, 2⟩⟩
    let word : Token := ⟨.identifier, "\u00dft", .bytes [1], ⟨3, 3⟩⟩
    MadeOf ⟨some ⟨"", ⟨0, 2⟩⟩, "SST", ⟨3, 3⟩, [label]⟩ [label, word, label] ∧
      ofLines [[word], [], [label]] = .error (.expectedInstruction none ⟨0, 0⟩) ∧
      ofLines [[word], [label], []] = .error (.expectedInstruction none ⟨2, 0⟩) := by
  intro label word
  have hmade : ofLines [[label, word, label]]
      = .ok [⟨some ⟨"", ⟨0, 2⟩⟩, "SST", ⟨3, 3⟩, [label]⟩] := by
    decide +kernel
  have hword : ∀ earlier ∈ [[word]], IsStatementRow earlier :=
    List.forall_mem_singleton.mpr ⟨none, word, [], rfl, by simp, rfl⟩
  refine ⟨?_, ?_, ?_⟩
  · exact (List.forall₂_cons.mp (((ofLines_made [[label, word, label]]).2.1 _).mp hmade)).1
  · exact ((ofLines_made [[word], [], [label]]).2.2.1 _).mpr ⟨[[word]], [], [[label]], _, _, rfl,
      hword, @MissesMnemonic.nothing none (by simp), rfl, rfl⟩
  · exact ((ofLines_made [[word], [label], []]).2.2.1 _).mpr ⟨[[word]], [label], [[]], _, _, rfl,
      hword, @MissesMnemonic.nothing (some label) (by simp [label]), rfl, rfl⟩

end Statement

end AccumulatorMachine
