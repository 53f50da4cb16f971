import AccumulatorMachine.Instruction.Word
import AccumulatorMachine.Program.Operand
import AccumulatorMachine.Program.Signature

/-!
# Mnemonics

The fourteen instructions of the assembly language. Eight of them are the
opcodes, five are the operators standing alone, and one puts data into memory.
Each has a signature, a size that is known as soon as its operands are, and
words that are known once its addresses are. Every instruction is one word but
for a string of data, which takes a word for each byte and a zero to end it.
-/

namespace AccumulatorMachine

/-- An instruction of the assembly language. -/
inductive Mnemonic
  /-- Put a byte, an address or a string into memory. -/
  | data
  /-- Apply several operators. -/
  | operate
  /-- Apply one operator. -/
  | operator (op : Operator)
  /-- Do something with the word at an address. -/
  | addressed (op : AddressOp)
  /-- Hand the accumulator to the printer. -/
  | output
  deriving DecidableEq

namespace Mnemonic

/-- The instructions of the language. -/
def all : List Mnemonic :=
  [data, operate, operator .clear, operator .complement, operator .increment,
    operator .shiftLeft, operator .shiftRight, addressed .load, addressed .store, addressed .add,
    addressed .and, addressed .jump, addressed .jumpIfZero, output]

/-- The name of the instruction, in upper case. -/
def name : Mnemonic → String
  | data => "DB"
  | operate => "OPR"
  | operator op => op.mnemonic
  | addressed op => op.mnemonic
  | output => "OUT"

/-- The instruction of a name in upper case. -/
def ofName? (name : String) : Option Mnemonic :=
  all.find? fun mnemonic => mnemonic.name == name

/-- The operands that the instruction takes. -/
def signature : Mnemonic → Signature
  | data => .exact [.ofList [.address, .number, .string]]
  | operate => .repeated (.ofList [.identifier]) 1 Operator.all.length
  | operator _ => .exact []
  | addressed _ => .exact [.ofList [.address]]
  | output => .exact []

/-- The number of words that the instruction takes with these operands. -/
def size {Target : Type} (mnemonic : Mnemonic) (operands : List (Operand Target)) : Nat :=
  match mnemonic, operands with
  | data, .bytes values :: _ => values.length + 1
  | _, _ => 1

/-- The operators among some operands. -/
def operatorsOf {Target : Type} (operands : List (Operand Target)) : List Operator :=
  operands.filterMap fun operand =>
    match operand with
    | .operator op => some op
    | _ => none

/-- The words that data takes in memory. -/
def dataWords : List (Operand UInt8) → List Word
  | .address target :: _ => [target]
  | .byte value :: _ => [value]
  | .bytes values :: _ => values ++ [0]
  | .operator op :: _ => [op.flag]
  | [] => []

/-- The address that the first operand gives, or zero if it gives none. -/
def leadingAddress : List (Operand UInt8) → UInt8
  | .address target :: _ => target
  | _ => 0

/-- The words that the instruction becomes with these operands. -/
def encode (mnemonic : Mnemonic) (operands : List (Operand UInt8)) : List Word :=
  match mnemonic with
  | data => dataWords operands
  | operate => [Word.ofParts .operate (Operator.encode (operatorsOf operands))]
  | operator op => [Word.ofParts .operate op.flag]
  | addressed op => [Word.ofParts (.addressed op) (leadingAddress operands)]
  | output => [Word.ofParts .output 0]

/-- Every instruction is in the list of all. -/
theorem mem_all (mnemonic : Mnemonic) : mnemonic ∈ all := by
  rcases mnemonic with _ | _ | op | op | _
  · decide
  · decide
  · cases op <;> decide
  · cases op <;> decide
  · decide

/-- An instruction found by name has that name. -/
theorem name_of_ofName? {text : String} {mnemonic : Mnemonic}
    (found : ofName? text = some mnemonic) : mnemonic.name = text := by
  have named := List.find?_some found
  simpa using named

end Mnemonic

end AccumulatorMachine
