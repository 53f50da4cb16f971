import AccumulatorMachine.Proofs.Program.Recasting
import Mathlib.Logic.Equiv.Basic

/-!
# The names of labels

A program means the same whatever its labels are called, as long as labels with
different names are given different names. The names are in two places, in front of
statements and in the addresses among their operands, and are renamed in both
(`Statement.renamed`); mnemonics and the names of operators stay. The program then has
the same words at the same addresses, or the same fault (`Assembly.ofStatements_renamed`).

Two labels given one name would be a duplicate, and an address given the name of a label
that it does not have could be found; so the renaming has to be injective.
-/

namespace AccumulatorMachine

/-- An operand in which the name is renamed if it is an address. -/
def Token.renamed (f : String → String) (token : Token) : Token :=
  match token.kind, token.value with
  | .address, .name name => { token with literal := "[" ++ f name ++ "]", value := .name (f name) }
  | _, _ => token

/-- **A statement in which the label and the addresses are renamed.** -/
def Statement.renamed (f : String → String) (statement : Statement) : Statement :=
  { statement with
    label := statement.label.map fun label => { label with name := f label.name }
    operands := statement.operands.map (Token.renamed f) }

/-- **A fault in which the label that it is about is renamed**, if it is about one. -/
def Fault.renamed (f : String → String) : Fault → Fault
  | .duplicateLabel label span first => .duplicateLabel (f label) span first
  | .unresolvedReference label span => .unresolvedReference (f label) span
  | fault => fault

/-- **Other names** and no other places. -/
def Recasting.renamed {f : String → String} (hf : Function.Injective f) : Recasting where
  name := f
  place := id
  literal token := (token.renamed f).literal
  injective := hf

section Renaming

variable {f : String → String} (hf : Function.Injective f)

/-- Renaming an operand is a way to recast it. -/
theorem Recasting.token_renamed (token : Token) :
    (renamed hf).token token = token.renamed f := by
  obtain ⟨kind, literal, value, span⟩ := token
  cases kind with
  | address => cases value <;> rfl
  | label | number | string | identifier => rfl

/-- Renaming a statement is a way to recast it. -/
theorem Recasting.statement_renamed (statement : Statement) :
    (renamed hf).statement statement = statement.renamed f := by
  have htokens : (renamed hf).token = Token.renamed f := funext (token_renamed hf)
  rw [Recasting.statement, htokens]
  rfl

/-- Renaming the label of a fault is a way to recast it. -/
theorem Recasting.fault_renamed (fault : Fault) :
    (renamed hf).fault fault = fault.renamed f := by
  cases fault <;> rfl

end Renaming

namespace Assembly

/-- **The names of labels carry no meaning.** If a program can be assembled, then it can
be under an injective renaming of its labels and addresses, to the same words and to
statements that differ only in the names of their labels, so that they are at the same
addresses; its symbols are renamed in their order. If it cannot, then the renamed program
cannot either, for the same reason at the same places, about the renamed label if the
fault is about one. -/
theorem ofStatements_renamed {f : String → String} (hf : Function.Injective f)
    (statements : List Statement) :
    (∀ assembly, ofStatements statements = .ok assembly →
      ∃ renamed, ofStatements (statements.map (Statement.renamed f)) = .ok renamed ∧
        renamed.words = assembly.words ∧
        renamed.symbols = assembly.symbols.map (fun symbol => (f symbol.1, symbol.2)) ∧
        renamed.statements = assembly.statements.map (fun statement =>
          { statement with label := statement.label.map f }) ∧
        renamed.statements.map AssembledStatement.address
          = assembly.statements.map AssembledStatement.address) ∧
    ∀ fault, ofStatements statements = .error fault →
      ofStatements (statements.map (Statement.renamed f)) = .error (fault.renamed f) := by
  have hstatements : statements.map (Statement.renamed f)
      = statements.map (Recasting.renamed hf).statement :=
    List.map_congr_left fun statement _ => (Recasting.statement_renamed hf statement).symm
  rw [hstatements, ofStatements_recast]
  constructor
  · intro assembly hassembly
    rw [hassembly]
    refine ⟨_, rfl, rfl, rfl, rfl, ?_⟩
    exact List.map_map
  · intro fault hfault
    rw [hfault, ← Recasting.fault_renamed hf]
    rfl

/-- Two labels that swap their names, in a program that refers to both, and in one that
defines a label twice. -/
theorem ofStatements_renamed_swap :
    let f := Equiv.swap "a" "b"
    let jump : Statement := ⟨some ⟨"a", ⟨0, 2⟩⟩, "JMP", ⟨3, 3⟩,
      [⟨.address, "[b]", .name "b", ⟨7, 3⟩⟩]⟩
    let operate : Statement := ⟨some ⟨"b", ⟨11, 2⟩⟩, "OPR", ⟨14, 3⟩,
      [⟨.identifier, "inc", .name "inc", ⟨18, 3⟩⟩]⟩
    let back : Statement := ⟨none, "JMP", ⟨22, 3⟩, [⟨.address, "[a]", .name "a", ⟨26, 3⟩⟩]⟩
    Function.Injective f ∧
      (∃ renamed, ofStatements ([jump, operate, back].map (Statement.renamed f)) = .ok renamed ∧
        renamed.words = [161, 4, 160] ∧ renamed.symbols = [("b", 0), ("a", 1)]) ∧
      ofStatements ([jump, operate, jump].map (Statement.renamed f))
        = .error (.duplicateLabel "b" ⟨0, 2⟩ ⟨0, 2⟩) := by
  intro f jump operate back
  have hf : Function.Injective f := Equiv.injective _
  have hassembly : ofStatements [jump, operate, back] = .ok
      { words := [161, 4, 160]
        symbols := [("a", 0), ("b", 1)]
        statements := [⟨some "a", .addressed .jump, [.address 1], 0⟩,
          ⟨some "b", .operate, [.operator .increment], 1⟩,
          ⟨none, .addressed .jump, [.address 0], 2⟩] } := by
    decide +kernel
  have hfault : ofStatements [jump, operate, jump]
      = .error (.duplicateLabel "a" ⟨0, 2⟩ ⟨0, 2⟩) := by
    decide +kernel
  obtain ⟨renamed, hrenamed, hwords, hsymbols, -⟩ :=
    (ofStatements_renamed hf [jump, operate, back]).1 _ hassembly
  have hsymbols' : renamed.symbols = [("b", 0), ("a", 1)] := hsymbols.trans (by decide +kernel)
  refine ⟨hf, ⟨renamed, hrenamed, hwords, hsymbols'⟩, ?_⟩
  exact ((ofStatements_renamed hf [jump, operate, jump]).2 _ hfault).trans (by decide +kernel)

end Assembly

end AccumulatorMachine
