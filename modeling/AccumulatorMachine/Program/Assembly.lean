import AccumulatorMachine.Journal
import AccumulatorMachine.Program.Layout

/-!
# Assembling a program

An `Assembly` is a program ready for memory: its words, the addresses of its
labels, and its statements with every address known. `Assembly.ofSource` makes
one from a source text in five stages – tokens, statements, layout, addresses,
words – or gives the first fault. `Assembly.record` does the same and also keeps
a `Milestone` for each stage that was finished.
-/

namespace AccumulatorMachine

/-- A statement with all its addresses known. -/
structure AssembledStatement where
  /-- The name of the label in front of the statement. -/
  label : Option String
  /-- The instruction. -/
  mnemonic : Mnemonic
  /-- The operands, with the numbers of memory words for addresses. -/
  operands : List (Operand UInt8)
  /-- The address of the first word. -/
  address : UInt8
  deriving DecidableEq

namespace AssembledStatement

/-- The words of the statement. -/
def words (statement : AssembledStatement) : List Word :=
  statement.mnemonic.encode statement.operands

end AssembledStatement

namespace Layout

/-- The address of the statement that carries a label. -/
def addressOf (layout : Layout) (reference : Reference) : Except Fault UInt8 :=
  match layout.carrier reference.label with
  | .ok (some carrier) => .ok (UInt8.ofNat carrier.address)
  | _ => .error (.unresolvedReference reference.label reference.span)

/-- A statement of the layout with its addresses found. -/
def assembleStatement (layout : Layout) (statement : PlacedStatement) :
    Except Fault AssembledStatement :=
  (statement.operands.mapM (Operand.resolve layout.addressOf)).map fun operands =>
    { label := statement.label.map Label.name
      mnemonic := statement.mnemonic
      operands := operands
      address := UInt8.ofNat statement.address }

/-- The statements of the layout with their addresses found. -/
def assembledStatements (layout : Layout) : Except Fault (List AssembledStatement) :=
  layout.statements.mapM layout.assembleStatement

/-- The labels in the order of their definition with the addresses they stand
for. A label with no statement behind it is left out; a program that was placed
has none. -/
def symbolTable (layout : Layout) : List (String × UInt8) :=
  match layout.symbols with
  | .ok symbols => symbols.map fun symbol => (symbol.1, UInt8.ofNat symbol.2)
  | .error _ => []

end Layout

/-- A program ready for memory. -/
structure Assembly where
  /-- The words of memory from address zero on. -/
  words : List Word
  /-- The labels in the order of their definition with their addresses. -/
  symbols : List (String × UInt8)
  /-- The statements in the order of their addresses. -/
  statements : List AssembledStatement
  deriving DecidableEq

/-- A finished stage of assembling. -/
inductive Milestone
  /-- The source was cut into tokens, on so many lines. -/
  | lexed (tokens lines : Nat)
  /-- The lines were understood as statements. -/
  | parsed (statements : Nat)
  /-- The statements were placed in memory. -/
  | compiled (statements words : Nat)
  /-- The addresses were found. -/
  | linked (statements : Nat)
  /-- The words were put together. -/
  | assembled (words : Nat)
  deriving DecidableEq

namespace Milestone

/-- The milestone in words. -/
def message : Milestone → String
  | lexed tokens lines =>
    "lexed " ++ Text.decimal tokens ++ " tokens over " ++ Text.decimal lines ++ " lines"
  | parsed statements => "parsed " ++ Text.decimal statements ++ " statements"
  | compiled statements words =>
    "compiled " ++ Text.decimal statements ++ " statements into " ++ Text.decimal words ++ " words"
  | linked statements => "linked " ++ Text.decimal statements ++ " statements"
  | assembled words => "assembled " ++ Text.decimal words ++ " words"

/-- The milestone as an entry of the journal. -/
def entry (milestone : Milestone) : JournalEntry :=
  ⟨.debug, milestone.message⟩

end Milestone

namespace Assembly

/-- The assembly of a layout and its statements. -/
def ofLayout (layout : Layout) (statements : List AssembledStatement) : Assembly where
  words := statements.flatMap AssembledStatement.words
  symbols := layout.symbolTable
  statements := statements

/-- Assembles statements. -/
def ofStatements (statements : List Statement) : Except Fault Assembly :=
  match Layout.ofStatements statements with
  | .error fault => .error fault
  | .ok layout => layout.assembledStatements.map (ofLayout layout)

/-- Assembles a source text, or gives the first thing wrong with it. -/
def ofSource (source : String) : Except Fault Assembly :=
  match Source.tokens source with
  | .error fault => .error fault
  | .ok lines =>
    match Statement.ofLines lines with
    | .error fault => .error fault
    | .ok statements => ofStatements statements

/-- Assembles a source text and keeps the milestones of the stages that were finished. -/
def record (source : String) : List Milestone × Except Fault Assembly :=
  match Source.tokens source with
  | .error fault => ([], .error fault)
  | .ok lines =>
    let lexed := Milestone.lexed lines.flatten.length lines.length
    match Statement.ofLines lines with
    | .error fault => ([lexed], .error fault)
    | .ok statements =>
      let parsed := Milestone.parsed statements.length
      match Layout.ofStatements statements with
      | .error fault => ([lexed, parsed], .error fault)
      | .ok layout =>
        let compiled := Milestone.compiled layout.length layout.size
        match layout.assembledStatements with
        | .error fault => ([lexed, parsed, compiled], .error fault)
        | .ok linked =>
          let assembly := ofLayout layout linked
          ([lexed, parsed, compiled, .linked linked.length, .assembled assembly.words.length],
            .ok assembly)

/-- Keeping milestones changes nothing about the result. -/
theorem record_snd (source : String) : (record source).2 = ofSource source := by
  unfold record ofSource ofStatements
  split
  · rfl
  · split
    · rfl
    · split
      · rfl
      · next layout _ =>
        cases layout.assembledStatements <;> rfl

end Assembly

end AccumulatorMachine
