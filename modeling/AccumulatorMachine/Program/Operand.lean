import AccumulatorMachine.Instruction.Operator
import AccumulatorMachine.Source.Fault

/-!
# Operands

An operand is an address, a byte, a string of bytes or an operator. Addresses
are known in two forms – first as the label they were written with, later as
the number of a memory word – and nothing else about operands differs between
the two. So the form of the address is a parameter, and linking is a traversal
that changes only it.
-/

namespace AccumulatorMachine

/-- A label, as an operand names it. -/
structure Reference where
  /-- The name of the label. -/
  label : String
  /-- The place of the operand. -/
  span : Span
  deriving DecidableEq

/-- An operand whose address, if it is one, is given by a `Target`. -/
inductive Operand (Target : Type)
  /-- The address of a statement. -/
  | address (target : Target)
  /-- A number. -/
  | byte (value : UInt8)
  /-- The bytes of a string, without the zero that ends it in memory. -/
  | bytes (values : List UInt8)
  /-- An operation on the accumulator. -/
  | operator (op : Operator)
  deriving DecidableEq

namespace Operand

/-- The operand that a token stands for. A name is a label in an address and
the name of an operator elsewhere. -/
def ofToken (token : Token) : Except Fault (Operand Reference) :=
  match token.value with
  | .byte value => .ok (.byte value)
  | .bytes values => .ok (.bytes values)
  | .name text =>
    if token.kind = .address then .ok (.address ⟨text, token.span⟩)
    else
      match Operator.ofName? text with
      | some op => .ok (.operator op)
      | none => .error (.unknownOperator text token.span)

/-- The operand with its address found by `find`, which may fail. -/
def resolve {Before After Failure : Type} (find : Before → Except Failure After) :
    Operand Before → Except Failure (Operand After)
  | address target => (find target).map address
  | byte value => .ok (byte value)
  | bytes values => .ok (bytes values)
  | operator op => .ok (operator op)

end Operand

end AccumulatorMachine
