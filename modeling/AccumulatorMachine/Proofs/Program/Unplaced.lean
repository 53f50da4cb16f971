import AccumulatorMachine.Proofs.Program.Recasting
import AccumulatorMachine.Proofs.Source.Spacing

/-!
# Places make no difference

Tokens, statements and layouts carry spans from the source to the faults that point
into it, and nothing else is done with them. Said without following any span: each
stage gives the same result without places, whether they are taken away before it
or after it. For statements this is shown here (`Statement.ofTokens_unplaced`); behind
them, taking places away is one way to recast a program (`Recasting.unplacing`). An
assembly has no places, and a fault loses its own.

So rows of tokens that differ only in their places are assembled to the same
(`Assembly.ofRows_unplaced`), which makes assembling insensitive to how a source is
laid out: its tokens can be printed (`Assembly.ofSource_printed`) and its layout can be
edited (`Assembly.ofSource_edits`).
-/

namespace AccumulatorMachine

/-! ## Taking places away -/

/-- A label without its place. -/
def Label.unplaced (label : Label) : Label :=
  { label with span := ⟨0, 0⟩ }

/-- **A statement without its places.** -/
def Statement.unplaced (statement : Statement) : Statement where
  label := statement.label.map Label.unplaced
  mnemonic := statement.mnemonic
  span := ⟨0, 0⟩
  operands := statement.operands.map Token.unplaced

/-- **A fault without its places.** -/
def Fault.unplaced : Fault → Fault
  | unknownToken token _ => unknownToken token ⟨0, 0⟩
  | invalidLiteral token flaw _ => invalidLiteral token flaw ⟨0, 0⟩
  | unterminatedString _ => unterminatedString ⟨0, 0⟩
  | expectedInstruction found _ => expectedInstruction found ⟨0, 0⟩
  | unknownInstruction mnemonic _ => unknownInstruction mnemonic ⟨0, 0⟩
  | unknownOperator name _ => unknownOperator name ⟨0, 0⟩
  | duplicateLabel label _ _ => duplicateLabel label ⟨0, 0⟩ ⟨0, 0⟩
  | wrongArity mnemonic expected found _ => wrongArity mnemonic expected found ⟨0, 0⟩
  | wrongKind mnemonic index expected found _ => wrongKind mnemonic index expected found ⟨0, 0⟩
  | unresolvedReference label _ => unresolvedReference label ⟨0, 0⟩
  | programTooLarge size capacity => programTooLarge size capacity

/-- **Taking places away** is to put everything at one place. -/
def Recasting.unplacing : Recasting where
  name := id
  place _ := ⟨0, 0⟩
  literal := Token.literal
  injective := Function.injective_id

namespace Recasting

/-- An operand keeps its meaning without its place. -/
theorem token_unplacing (token : Token) : unplacing.token token = token.unplaced := by
  obtain ⟨kind, literal, value, span⟩ := token
  cases kind with
  | address => cases value <;> rfl
  | label | number | string | identifier => rfl

/-- Taking the places of a statement away is a way to recast it. -/
theorem statement_unplacing (statement : Statement) :
    unplacing.statement statement = statement.unplaced := by
  have htokens : unplacing.token = Token.unplaced := funext token_unplacing
  rw [Recasting.statement, htokens]
  rfl

/-- Taking the places of a fault away is a way to recast it. -/
theorem fault_unplacing : unplacing.fault = Fault.unplaced := by
  funext fault
  cases fault <;> rfl

/-- An assembly has no places. -/
theorem assembly_unplacing : unplacing.assembly = id := by
  funext assembly
  obtain ⟨words, symbols, statements⟩ := assembly
  have hassembled : unplacing.assembled = id := by
    funext statement
    obtain ⟨label, mnemonic, operands, address⟩ := statement
    cases label <;> rfl
  rw [Recasting.assembly, hassembled, List.map_id, Recasting.labels]
  exact congrArg (Assembly.mk words · statements) (List.map_id symbols)

end Recasting

/-! ## Statements -/

namespace Statement

/-- A statement behind a label does not depend on places. -/
theorem ofRest_unplaced (label : Option Label) (tokens : List Token) :
    ofRest (label.map Label.unplaced) (tokens.map Token.unplaced)
      = changing Fault.unplaced unplaced (ofRest label tokens) := by
  cases tokens with
  | nil =>
    -- behind a label without a place there is no place either
    cases label <;> rfl
  | cons token operands =>
    rw [List.map_cons, ofRest, ofRest, token.kind_unplaced]
    by_cases hkind : token.kind = .identifier
    · rw [if_pos hkind, if_pos hkind]
      rfl
    · rw [if_neg hkind, if_neg hkind]
      rfl

/-- **A statement does not depend on places.** -/
theorem ofTokens_unplaced (tokens : List Token) :
    ofTokens (tokens.map Token.unplaced) = changing Fault.unplaced unplaced (ofTokens tokens) := by
  cases tokens with
  | nil => rfl
  | cons token rest =>
    rw [List.map_cons, ofTokens, ofTokens, token.kind_unplaced]
    by_cases hkind : token.kind = .label
    · rw [if_pos hkind, if_pos hkind]
      exact ofRest_unplaced (some (.ofToken token)) rest
    · rw [if_neg hkind, if_neg hkind]
      exact ofRest_unplaced none (token :: rest)

/-- **The statements of a program do not depend on places.** -/
theorem ofLines_unplaced (lines : List (List Token)) :
    ofLines (lines.map (List.map Token.unplaced))
      = changing Fault.unplaced (List.map unplaced) (ofLines lines) :=
  mapM_map_changing ofTokens_unplaced lines

end Statement

/-! ## Programs -/

namespace Assembly

/-- **Assembling statements does not depend on places.** -/
theorem ofStatements_unplaced (statements : List Statement) :
    ofStatements (statements.map Statement.unplaced)
      = changing Fault.unplaced id (ofStatements statements) := by
  have hstatements : Recasting.unplacing.statement = Statement.unplaced :=
    funext Recasting.statement_unplacing
  rw [← hstatements, ofStatements_recast, Recasting.fault_unplacing, Recasting.assembly_unplacing]

/-- Assembles rows of tokens. -/
def ofRows (rows : List (List Token)) : Except Fault Assembly :=
  match Statement.ofLines rows with
  | .error fault => .error fault
  | .ok statements => ofStatements statements

/-- A source text is assembled from its tokens. -/
theorem ofSource_eq_ofRows {source : String} {rows : List (List Token)}
    (h : Source.tokens source = .ok rows) : ofSource source = ofRows rows := by
  rw [ofSource, h]
  rfl

/-- **Assembling tokens does not depend on places.** -/
theorem ofRows_unplaced (rows : List (List Token)) :
    ofRows (rows.map (List.map Token.unplaced)) = changing Fault.unplaced id (ofRows rows) := by
  unfold ofRows
  rw [Statement.ofLines_unplaced]
  cases Statement.ofLines rows with
  | error fault => rfl
  | ok statements => exact ofStatements_unplaced statements

/-- **Source texts with the same tokens are assembled to the same**, up to the places that
a fault points at. -/
theorem ofSource_eq_of_tokens {source other : String} {rows again : List (List Token)}
    (h : Source.tokens source = .ok rows) (hagain : Source.tokens other = .ok again)
    (hsame : again.map (List.map Token.unplaced) = rows.map (List.map Token.unplaced)) :
    (ofSource other).mapError Fault.unplaced = (ofSource source).mapError Fault.unplaced := by
  rw [ofSource_eq_ofRows h, ofSource_eq_ofRows hagain, ← changing_id, ← changing_id,
    ← ofRows_unplaced, ← ofRows_unplaced, hsame]

/-- **A source text and its tokens, printed, are assembled to the same**, up to the
places that a fault points at: the printed text has the same tokens, and no stage
behind them looks at places. -/
theorem ofSource_printed {source : String} {rows : List (List Token)}
    (h : Source.tokens source = .ok rows) :
    (∃ again, Source.tokens (Source.printed rows) = .ok again ∧
      again.map (List.map Token.unplaced) = rows.map (List.map Token.unplaced)) ∧
    (ofSource (Source.printed rows)).mapError Fault.unplaced
      = (ofSource source).mapError Fault.unplaced := by
  obtain ⟨again, hagain, hsame⟩ := Source.tokens_printed h
  exact ⟨⟨again, hagain, hsame⟩, ofSource_eq_of_tokens h hagain hsame⟩

/-- A string with a space, a semicolon and an escaped mark, and an address that is
found nowhere, before and after printing. -/
theorem ofSource_printed_unresolved :
    ofSource "x:  DB \"a \\\"; b\"\t; c\n\nJMP [y]" = .error (.unresolvedReference "y" ⟨26, 3⟩) ∧
    (ofSource "x: DB \"a \\\"; b\"\nJMP [y]").mapError Fault.unplaced
      = .error (.unresolvedReference "y" ⟨0, 0⟩) := by
  have hfault : ofSource "x:  DB \"a \\\"; b\"\t; c\n\nJMP [y]"
      = .error (.unresolvedReference "y" ⟨26, 3⟩) := by
    decide +kernel
  have hrows : Source.tokens "x:  DB \"a \\\"; b\"\t; c\n\nJMP [y]" = .ok
      [[⟨.label, "x:", .name "x", ⟨0, 2⟩⟩, ⟨.identifier, "DB", .name "DB", ⟨4, 2⟩⟩,
        ⟨.string, "\"a \\\"; b\"", .bytes [97, 32, 34, 59, 32, 98], ⟨7, 9⟩⟩],
      [⟨.identifier, "JMP", .name "JMP", ⟨22, 3⟩⟩, ⟨.address, "[y]", .name "y", ⟨26, 3⟩⟩]] := by
    decide +kernel
  have hsame := (ofSource_printed hrows).2
  rw [hfault] at hsame
  exact ⟨hfault, hsame⟩

/-- **The layout of a source text does not matter.** After any number of edits – carriage
returns in front of all line feeds, lines that are blank or hold only a comment, comments
behind lines, separators where no word is split – a source text has the same tokens up to
places, and is assembled to the same, or fails with the same fault up to its places. -/
theorem ofSource_edits {source edited : String} {rows : List (List Token)}
    (h : Source.tokens source = .ok rows)
    (hedits : Relation.ReflTransGen Source.Edit source edited) :
    (∃ again, Source.tokens edited = .ok again ∧
      again.map (List.map Token.unplaced) = rows.map (List.map Token.unplaced)) ∧
    (ofSource edited).mapError Fault.unplaced = (ofSource source).mapError Fault.unplaced := by
  obtain ⟨again, hagain, hsame⟩ := Source.exists_tokens_of_edits h hedits
  exact ⟨⟨again, hagain, hsame⟩, ofSource_eq_of_tokens h hagain hsame⟩

/-- All four edits, one after the other, where a string has a space and a semicolon and a
comment a quotation mark. -/
theorem ofSource_edits_each :
    Relation.ReflTransGen Source.Edit "a: DB \"x ;\"\nJMP [a];c"
      "a: DB \"x ;\"\r;\"\n \t; note\nJMP\t\r [a];c" ∧
    (ofSource "a: DB \"x ;\"\r;\"\n \t; note\nJMP\t\r [a];c").mapError Fault.unplaced
      = .ok
        { words := [120, 32, 59, 0, 160]
          symbols := [("a", 0)]
          statements := [⟨some "a", .data, [.bytes [120, 32, 59]], 0⟩,
            ⟨none, .addressed .jump, [.address 0], 4⟩] } := by
  have hreturns : Source.Edit "a: DB \"x ;\"\nJMP [a];c" "a: DB \"x ;\"\r\nJMP [a];c" :=
    .returns (by decide +kernel)
  have hblank : Source.Edit "a: DB \"x ;\"\r\nJMP [a];c"
      "a: DB \"x ;\"\r\n \t; note\nJMP [a];c" :=
    @Source.Edit.blank _ _ ["a: DB \"x ;\"\r".toList] ["JMP [a];c".toList] " \t; note".toList
      (by decide +kernel) (by decide +kernel)
      ⟨" \t".toList, "; note".toList, by decide +kernel,
        List.all_eq_true.mp (by decide +kernel), Or.inr ⟨" note".toList, by decide +kernel⟩⟩
  have hcomment : Source.Edit "a: DB \"x ;\"\r\n \t; note\nJMP [a];c"
      "a: DB \"x ;\"\r;\"\n \t; note\nJMP [a];c" :=
    @Source.Edit.comment _ _ [] [" \t; note".toList, "JMP [a];c".toList]
      "a: DB \"x ;\"\r".toList ['"'] (by decide +kernel) (by decide +kernel)
  have hseparators : Source.Edit "a: DB \"x ;\"\r;\"\n \t; note\nJMP [a];c"
      "a: DB \"x ;\"\r;\"\n \t; note\nJMP\t\r [a];c" :=
    @Source.Edit.separators _ _ ["a: DB \"x ;\"\r;\"".toList, " \t; note".toList] []
      "JMP".toList " [a];c".toList "\t\r".toList (by decide +kernel) (by decide +kernel)
      (List.all_eq_true.mp (by decide +kernel)) (Or.inr (Or.inr
        ⟨[⟨.identifier, "JMP", .name "JMP", ⟨0, 3⟩⟩, ⟨.address, "[a]", .name "a", ⟨4, 3⟩⟩],
          by decide +kernel, by decide +kernel⟩))
  have hedits := (((Relation.ReflTransGen.single hreturns).tail hblank).tail hcomment).tail
    hseparators
  have hrows : Source.tokens "a: DB \"x ;\"\nJMP [a];c" = .ok
      [[⟨.label, "a:", .name "a", ⟨0, 2⟩⟩, ⟨.identifier, "DB", .name "DB", ⟨3, 2⟩⟩,
        ⟨.string, "\"x ;\"", .bytes [120, 32, 59], ⟨6, 5⟩⟩],
      [⟨.identifier, "JMP", .name "JMP", ⟨12, 3⟩⟩, ⟨.address, "[a]", .name "a", ⟨16, 3⟩⟩]] := by
    decide +kernel
  have hassembly : ofSource "a: DB \"x ;\"\nJMP [a];c" = .ok
      { words := [120, 32, 59, 0, 160]
        symbols := [("a", 0)]
        statements := [⟨some "a", .data, [.bytes [120, 32, 59]], 0⟩,
          ⟨none, .addressed .jump, [.address 0], 4⟩] } := by
    decide +kernel
  have hsame := (ofSource_edits hrows hedits).2
  rw [hassembly] at hsame
  exact ⟨hedits, hsame⟩

end Assembly

end AccumulatorMachine
