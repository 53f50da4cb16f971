import AccumulatorMachine.Proofs.Program.Checks
import AccumulatorMachine.Proofs.Source.Faults

/-!
# Which fault is reported

A source text can have several faults, and one is reported. `Source.FirstFault` says
which: the first word that is no token, wherever it stands; if there is none, the first
row of tokens that is no statement's; then the first statement that is not valid, with the
first of its checks that fails; then the size of the program; and last the first reference
that leads nowhere. A stage is reached only if nothing is wrong in the one before, and
within a stage the order of the source decides.

`Assembly.ofSource_firstFault` says that this is the fault that is reported. So what comes
behind a statement that is not valid cannot change what is said about it.
-/

namespace AccumulatorMachine

/-! ## Words -/

/-- **What the words of lines are**, line by line, if the first one begins at an
offset. -/
inductive WordsOfLines : List (List Char) → Nat → List (Except Fault Token) → Prop
  /-- No lines have no words. -/
  | nil {offset : Nat} : WordsOfLines [] offset []
  /-- The words of a line come before those of the lines behind it. -/
  | cons {line : List Char} {lines : List (List Char)} {offset : Nat}
    {words others : List (Except Fault Token)} (hline : Words line offset words)
    (hlines : WordsOfLines lines (offset + Text.byteLength line + 1) others) :
    WordsOfLines (line :: lines) offset (words ++ others)

namespace Source

/-- **The words of a source text**: each is a token or fails to be one. -/
def HasWords (source : String) (words : List (Except Fault Token)) : Prop :=
  WordsOfLines (Text.splitOn '\n' source.toList) 0 words

/-- Lines have words. -/
theorem exists_wordsOfLines (lines : List (List Char)) (offset : Nat) :
    ∃ words, WordsOfLines lines offset words := by
  induction lines generalizing offset with
  | nil => exact ⟨[], .nil⟩
  | cons line lines ih =>
    obtain ⟨words, hline⟩ := exists_words line offset
    obtain ⟨others, hlines⟩ := ih (offset + Text.byteLength line + 1)
    exact ⟨words ++ others, .cons hline hlines⟩

/-- **Lines have no tokens** because of the first of their words that is none. -/
theorem tokensOfLines_eq_error_iff {lines : List (List Char)} {offset : Nat}
    {words : List (Except Fault Token)} (h : WordsOfLines lines offset words) {fault : Fault} :
    tokensOfLines lines offset = .error fault ↔ IsFirstFailure fault words := by
  induction h with
  | nil => exact iff_of_false (by simp [tokensOfLines]) not_isFirstFailure_nil
  | @cons line lines offset words others hline _ ih =>
    rw [isFirstFailure_append_iff, ← Cursor.tokens_eq_error_iff hline,
      ← Cursor.exists_tokens_iff hline, ← ih, tokensOfLines, Cursor.ofLine]
    cases Cursor.tokens ⟨line, offset⟩ with
    | error other => simp
    | ok found => simp [map_eq_error_iff]

/-! ## The first fault -/

/-- **The fault that comes first** in a source text. -/
inductive FirstFault (source : String) : Fault → Prop
  /-- A word is no token, and those before it are. -/
  | word {words : List (Except Fault Token)} {fault : Fault} (hwords : HasWords source words)
    (hfirst : IsFirstFailure fault words) : FirstFault source fault
  /-- All words are tokens, and a row of them is no statement's, unlike those before it. -/
  | row {before behind : List (List Token)} {row : List Token} {fault : Fault}
    (hrows : tokens source = .ok (before ++ row :: behind))
    (hbefore : ∀ earlier ∈ before, Statement.IsStatementRow earlier)
    (hrow : Statement.RowFails row fault) : FirstFault source fault
  /-- All rows are statements, and one of them fails behind those before it, which are
  valid. -/
  | statement {rows : List (List Token)} {before behind : List Statement}
    {statement : Statement} {fault : Fault} (hrows : tokens source = .ok rows)
    (hstatements : Statement.ofLines rows = .ok (before ++ statement :: behind))
    (hvalid : Statement.AllValid before) (hfails : statement.Fails before fault) :
    FirstFault source fault
  /-- All statements are valid, and take more words than memory holds. -/
  | size {rows : List (List Token)} {statements : List Statement}
    (hrows : tokens source = .ok rows) (hstatements : Statement.ofLines rows = .ok statements)
    (hvalid : Statement.AllValid statements)
    (hlarge : capacity < (statements.map Statement.size).sum) :
    FirstFault source (.programTooLarge (statements.map Statement.size).sum capacity)
  /-- The statements fit into memory, and a token of theirs refers to a label that none of
  them has; the references before it are to labels that one has. -/
  | reference {rows : List (List Token)} {statements : List Statement}
    {before after : List Token} {token : Token} {name : String}
    (hrows : tokens source = .ok rows) (hstatements : Statement.ofLines rows = .ok statements)
    (hvalid : Statement.AllValid statements)
    (hfits : (statements.map Statement.size).sum ≤ capacity)
    (hoperands : statements.flatMap Statement.operands = before ++ token :: after)
    (hbefore : ∀ earlier ∈ before, ∀ known, earlier.RefersTo known →
      known ∈ statements.filterMap Statement.labelName)
    (hrefers : token.RefersTo name)
    (hunknown : name ∉ statements.filterMap Statement.labelName) :
    FirstFault source (.unresolvedReference name token.span)

/-- A source text has no tokens because of the first of its words that is none. -/
theorem tokens_eq_error_iff {source : String} {words : List (Except Fault Token)}
    (h : HasWords source words) {fault : Fault} :
    tokens source = .error fault ↔ IsFirstFailure fault words :=
  tokensOfLines_eq_error_iff h

end Source

/-- Rows of tokens are no statements because of the first that is none. -/
theorem Statement.ofLines_eq_error_iff {rows : List (List Token)} (hne : ∀ row ∈ rows, row ≠ [])
    {fault : Fault} :
    ofLines rows = .error fault ↔
      ∃ before row behind, rows = before ++ row :: behind ∧
        (∀ earlier ∈ before, IsStatementRow earlier) ∧ RowFails row fault := by
  unfold ofLines
  rw [mapM_eq_error_iff, isFirstFailure_map_iff]
  simp only [exists_ofTokens_iff]
  constructor
  · rintro ⟨before, row, behind, rfl, hbefore, hrow⟩
    have hmem : row ∈ before ++ row :: behind := List.mem_append_right before List.mem_cons_self
    exact ⟨before, row, behind, rfl, hbefore, (ofTokens_eq_error_iff (hne row hmem)).mp hrow⟩
  · rintro ⟨before, row, behind, rfl, hbefore, hrow⟩
    have hmem : row ∈ before ++ row :: behind := List.mem_append_right before List.mem_cons_self
    exact ⟨before, row, behind, rfl, hbefore, (ofTokens_eq_error_iff (hne row hmem)).mpr hrow⟩

namespace Assembly

/-- Assembling a source text whose lines are statements is assembling these. -/
theorem ofSource_eq_ofStatements {source : String} {rows : List (List Token)}
    {statements : List Statement} (hrows : Source.tokens source = .ok rows)
    (hstatements : Statement.ofLines rows = .ok statements) :
    ofSource source = ofStatements statements := by
  unfold ofSource
  simp only [hrows, hstatements]

/-- **The fault that comes first is reported.** -/
theorem ofSource_of_firstFault {source : String} {fault : Fault}
    (h : Source.FirstFault source fault) : ofSource source = .error fault := by
  cases h with
  | word hwords hfirst =>
    unfold ofSource
    rw [(Source.tokens_eq_error_iff hwords).mpr hfirst]
  | row hrows hbefore hrow =>
    have hne := fun row hmem => (Source.written_of_tokens hrows row hmem).1
    unfold ofSource
    simp only [hrows, (Statement.ofLines_eq_error_iff hne).mpr ⟨_, _, _, rfl, hbefore, hrow⟩]
  | statement hrows hstatements hvalid hfails =>
    rw [ofSource_eq_ofStatements hrows hstatements, ofStatements,
      Layout.ofStatements_eq_error_iff_fails.mpr (Or.inl ⟨_, _, _, rfl, hvalid, hfails⟩)]
  | size hrows hstatements hvalid hlarge =>
    rw [ofSource_eq_ofStatements hrows hstatements, ofStatements,
      Layout.ofStatements_eq_error_iff_fails.mpr (Or.inr ⟨hvalid, hlarge, rfl⟩)]
  | reference hrows hstatements hvalid hfits hoperands hbefore hrefers hunknown =>
    obtain ⟨layout, hplace⟩ := Layout.exists_placeAll_iff.mpr hvalid
    rw [ofSource_eq_ofStatements hrows hstatements, ofStatements,
      Layout.ofStatements_eq_ok_iff_placeAll.mpr
        ⟨hplace, (Layout.size_of_placeAll hplace).symm ▸ hfits⟩]
    exact map_eq_error_iff.mpr ((Layout.assembledStatements_eq_error_iff hplace).mpr
      ⟨_, _, _, hoperands, hbefore, _, hrefers, hunknown, rfl⟩)

/-- **What is reported is the fault that comes first.** -/
theorem firstFault_of_ofSource {source : String} {fault : Fault}
    (h : ofSource source = .error fault) : Source.FirstFault source fault := by
  cases hrows : Source.tokens source with
  | error other =>
    obtain ⟨words, hwords⟩ := Source.exists_wordsOfLines (Text.splitOn '\n' source.toList) 0
    unfold ofSource at h
    rw [hrows] at h
    obtain rfl := Except.error.inj h
    exact .word hwords ((Source.tokens_eq_error_iff hwords).mp hrows)
  | ok rows =>
    cases hstatements : Statement.ofLines rows with
    | error other =>
      have hne := fun row hmem => (Source.written_of_tokens hrows row hmem).1
      unfold ofSource at h
      simp only [hrows, hstatements, Except.error.injEq] at h
      obtain ⟨before, row, behind, rfl, hbefore, hrow⟩ :=
        (Statement.ofLines_eq_error_iff hne).mp hstatements
      exact h ▸ .row hrows hbefore hrow
    | ok statements =>
      rw [ofSource_eq_ofStatements hrows hstatements, ofStatements] at h
      split at h
      · next other hother =>
        obtain rfl := Except.error.inj h
        rcases Layout.ofStatements_eq_error_iff_fails.mp hother with
          ⟨before, statement, behind, rfl, hvalid, hfails⟩ | ⟨hvalid, hlarge, rfl⟩
        · exact .statement hrows hstatements hvalid hfails
        · exact .size hrows hstatements hvalid hlarge
      · next layout hlayout =>
        obtain ⟨hplace, hfits⟩ := Layout.ofStatements_eq_ok_iff_placeAll.mp hlayout
        rw [Layout.size_of_placeAll hplace] at hfits
        obtain ⟨before, token, after, hoperands, hbefore, name, hrefers, hunknown, rfl⟩ :=
          (Layout.assembledStatements_eq_error_iff hplace).mp (map_eq_error_iff.mp h)
        exact .reference hrows hstatements (Layout.exists_placeAll_iff.mp ⟨layout, hplace⟩) hfits
          hoperands hbefore hrefers hunknown

/-- **The fault that is reported is the first one.** A source text fails to assemble with a
fault if and only if it is the one that comes first (`Source.FirstFault`), where no row
that is no statement's and no statement that is not valid is passed over. And statements
that have no layout, unless they are too large, have a first one that is not valid, which
fails with the same fault whatever statements come behind it. -/
theorem ofSource_firstFault :
    (∀ source fault, ofSource source = .error fault ↔ Source.FirstFault source fault) ∧
    (∀ row, row ≠ [] → ((∃ fault, Statement.RowFails row fault) ↔ ¬ Statement.IsStatementRow row)) ∧
    (∀ (before : List Statement) (statement : Statement),
      (∃ fault, statement.Fails before fault) ↔ ¬ statement.Valid before) ∧
    ∀ statements fault, Layout.ofStatements statements = .error fault →
      (∀ size limit, fault ≠ .programTooLarge size limit) →
      ∃ before statement behind, statements = before ++ statement :: behind ∧
        Statement.AllValid before ∧ ¬ statement.Valid before ∧ statement.Fails before fault ∧
        ∀ others, Layout.ofStatements (before ++ statement :: others) = .error fault := by
  refine ⟨fun source fault => ⟨firstFault_of_ofSource, ofSource_of_firstFault⟩,
    fun row hne => Statement.exists_rowFails_iff hne,
    fun before statement => Statement.exists_fails_iff, fun statements fault h hfits => ?_⟩
  rcases Layout.ofStatements_eq_error_iff_fails.mp h with
    ⟨before, statement, behind, rfl, hvalid, hfails⟩ | ⟨-, -, hlarge⟩
  · exact ⟨before, statement, behind, rfl, hvalid, Statement.exists_fails_iff.mp ⟨fault, hfails⟩,
      hfails, fun others => Layout.ofStatements_eq_error_iff_fails.mpr
        (Or.inl ⟨before, statement, others, rfl, hvalid, hfails⟩)⟩
  · exact absurd hlarge (hfits _ _)

/-- A text that is never closed on the second line, where the first has an operand of the
wrong kind and the third a number that is too large; a label alone on its line; and a
statement with a label that is taken and no operand, in front of one without an
instruction. -/
theorem ofSource_firstFault_several :
    let source := "ADD 7\nFOO \"\u00e9\nl: OUT 300"
    let label : Token := ⟨.label, "l:", .name "l", ⟨0, 2⟩⟩
    let statements : List Statement :=
      [⟨some ⟨"l", ⟨0, 2⟩⟩, "OUT", ⟨3, 3⟩, []⟩, ⟨some ⟨"l", ⟨7, 2⟩⟩, "LD", ⟨10, 2⟩, []⟩,
        ⟨none, "FOO", ⟨13, 3⟩, []⟩]
    Source.FirstFault source (.unterminatedString ⟨10, 3⟩) ∧
      ¬ Statement.IsStatementRow [label] ∧
      ∃ before statement, (∃ behind, statements = before ++ statement :: behind) ∧
        ¬ statement.Valid before ∧
        ∀ others, Layout.ofStatements (before ++ statement :: others)
          = .error (.duplicateLabel "l" ⟨7, 2⟩ ⟨0, 2⟩) := by
  intro source label statements
  obtain ⟨hsource, hrow, -, hstatements⟩ := ofSource_firstFault
  have hfault : ofSource source = .error (.unterminatedString ⟨10, 3⟩) := by decide +kernel
  have hlayout : Layout.ofStatements statements
      = .error (.duplicateLabel "l" ⟨7, 2⟩ ⟨0, 2⟩) := by decide +kernel
  obtain ⟨before, statement, behind, hsplit, -, hinvalid, -, hothers⟩ :=
    hstatements statements _ hlayout (fun size limit => by simp)
  exact ⟨(hsource source _).mp hfault,
    (hrow [label] (by simp)).mp ⟨_, Statement.RowFails.labelAlone rfl⟩,
    before, statement, ⟨behind, hsplit⟩, hinvalid, hothers⟩

end Assembly

end AccumulatorMachine
