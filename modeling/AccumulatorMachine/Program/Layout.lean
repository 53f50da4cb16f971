import AccumulatorMachine.Program.Mnemonic
import AccumulatorMachine.Source.Statement

/-!
# The layout of a program

A layout places statements in memory, each where the one before it ends, and
remembers which statement carries which label. A label is registered for the
statement that is added next, so its index may lie one past the statements that
are there; looking such a label up finds a `Dangling` index.

`Layout.place` adds one statement, after checking in this order that its
instruction exists, that its label is new, that it has the right number of
operands, and then each operand from left to right. `Layout.ofStatements`
places a whole program, and only then asks whether it fits into memory.
-/

namespace AccumulatorMachine

/-- A statement with its operands understood and its place in memory. -/
structure PlacedStatement where
  /-- The label in front of the statement. -/
  label : Option Label
  /-- The instruction. -/
  mnemonic : Mnemonic
  /-- The operands, with labels for addresses. -/
  operands : List (Operand Reference)
  /-- The address of the first word. -/
  address : Nat
  /-- The number of words. -/
  size : Nat
  /-- The place of the mnemonic in the source. -/
  span : Span
  deriving DecidableEq

/-- An index at which there is no statement yet. -/
structure Dangling where
  /-- The index. -/
  index : Nat
  deriving DecidableEq

/-- Placed statements and the labels that they carry. -/
structure Layout where
  /-- The statements in the order of their addresses. -/
  statements : List PlacedStatement
  /-- The labels in the order of their definition, each with the index of the
  statement that carries it. -/
  labels : List (String × Nat)
  deriving DecidableEq

namespace Layout

/-- The layout of no program. -/
def empty : Layout :=
  ⟨[], []⟩

/-- The number of statements. -/
def length (layout : Layout) : Nat :=
  layout.statements.length

/-- The number of words up to the end of the last statement. -/
def size (layout : Layout) : Nat :=
  match layout.statements.getLast? with
  | some last => last.address + last.size
  | none => 0

/-- Registers a label for the statement that is added next. A label that is
taken is answered with the index of the statement it was registered for. -/
def define (layout : Layout) (label : String) : Except Nat Layout :=
  match layout.labels.lookup label with
  | some index => .error index
  | none => .ok { layout with labels := layout.labels ++ [(label, layout.length)] }

/-- The layout with one more statement at its end. -/
def add (layout : Layout) (statement : PlacedStatement) : Layout :=
  { layout with statements := layout.statements ++ [statement] }

/-- The statement at an index. -/
def statement (layout : Layout) (index : Nat) : Except Dangling PlacedStatement :=
  match layout.statements[index]? with
  | some statement => .ok statement
  | none => .error ⟨index⟩

/-- The statement that carries a label, or `none` if the label is not defined. -/
def carrier (layout : Layout) (label : String) : Except Dangling (Option PlacedStatement) :=
  match layout.labels.lookup label with
  | none => .ok none
  | some index => (layout.statement index).map some

/-- The labels in the order of their definition with the addresses they stand for. -/
def symbols (layout : Layout) : Except Dangling (List (String × Nat)) :=
  layout.labels.mapM fun entry =>
    (layout.statement entry.2).map fun carrier => (entry.1, carrier.address)

/-- The layout with the label of a statement registered, if it has one. -/
def defineLabel (layout : Layout) : Option Label → Except Fault Layout
  | none => .ok layout
  | some label =>
    match layout.define label.name with
    | .ok defined => .ok defined
    | .error index =>
      let first := (layout.statements[index]?).bind fun carrier => carrier.label
      .error (.duplicateLabel label.name label.span ((first.getD label).span))

/-- The operand at a position of an instruction that was given `count` of them. -/
def operand (mnemonic : Mnemonic) (count index : Nat) (token : Token) :
    Except Fault (Operand Reference) :=
  match mnemonic.signature.kindsAt index with
  | none => .error (.wrongArity mnemonic.name mnemonic.signature.arity count token.span)
  | some kinds =>
    if kinds.contains token.kind then Operand.ofToken token
    else .error (.wrongKind mnemonic.name index kinds token.kind token.span)

/-- The operands from a position on, of an instruction that was given `count` of them. -/
def operandsFrom (mnemonic : Mnemonic) (count : Nat) :
    Nat → List Token → Except Fault (List (Operand Reference))
  | _, [] => .ok []
  | index, token :: tokens =>
    match operand mnemonic count index token with
    | .error fault => .error fault
    | .ok first => (operandsFrom mnemonic count (index + 1) tokens).map (first :: ·)

/-- The operands of an instruction, if it takes that many and of those kinds. A
wrong number of operands is reported at the last one, or at the mnemonic if
there is none. -/
def operands (mnemonic : Mnemonic) (span : Span) (tokens : List Token) :
    Except Fault (List (Operand Reference)) :=
  if mnemonic.signature.acceptsCount tokens.length then
    operandsFrom mnemonic tokens.length 0 tokens
  else
    .error (.wrongArity mnemonic.name mnemonic.signature.arity tokens.length
      ((tokens.getLast?.map Token.span).getD span))

/-- The layout with a statement placed at its end. -/
def place (layout : Layout) (statement : Statement) : Except Fault Layout :=
  match Mnemonic.ofName? statement.mnemonic with
  | none => .error (.unknownInstruction statement.mnemonic statement.span)
  | some mnemonic =>
    match layout.defineLabel statement.label with
    | .error fault => .error fault
    | .ok defined =>
      (operands mnemonic statement.span statement.operands).map fun understood =>
        defined.add
          { label := statement.label
            mnemonic := mnemonic
            operands := understood
            address := layout.size
            size := mnemonic.size understood
            span := statement.span }

/-- The layout with statements placed at its end, one after the other. -/
def placeAll (layout : Layout) : List Statement → Except Fault Layout
  | [] => .ok layout
  | statement :: statements =>
    match layout.place statement with
    | .error fault => .error fault
    | .ok placed => placed.placeAll statements

/-- The layout of a program that fits into memory. -/
def ofStatements (statements : List Statement) : Except Fault Layout :=
  match empty.placeAll statements with
  | .error fault => .error fault
  | .ok layout =>
    if layout.size ≤ capacity then .ok layout
    else .error (.programTooLarge layout.size capacity)

end Layout

end AccumulatorMachine
