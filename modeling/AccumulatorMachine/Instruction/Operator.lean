import AccumulatorMachine.Text.AsciiCase

/-!
# Operators

The five operations on the accumulator that one instruction word can combine.
Each has a flag bit, and the operators of a word run lowest bit first, whatever
order they were written in.
-/

namespace AccumulatorMachine

/-- An operation on the accumulator. -/
inductive Operator
  /-- Make the accumulator zero. -/
  | clear
  /-- Turn every bit over. -/
  | complement
  /-- Add one, wrapping past 255. -/
  | increment
  /-- Shift left by one bit, dropping the high bit. -/
  | shiftLeft
  /-- Shift right by one bit, dropping the low bit. -/
  | shiftRight
  deriving DecidableEq

namespace Operator

/-- The operators in the order in which they run. -/
def all : List Operator :=
  [clear, complement, increment, shiftLeft, shiftRight]

/-- The bit that selects the operator. -/
def flag : Operator → UInt8
  | clear => 1
  | complement => 2
  | increment => 4
  | shiftLeft => 8
  | shiftRight => 16

/-- The name of the operator in source text and listings. -/
def mnemonic : Operator → String
  | clear => "CLR"
  | complement => "NOT"
  | increment => "INC"
  | shiftLeft => "ROL"
  | shiftRight => "ROR"

/-- The operator of a name, whatever the case of its letters. -/
def ofName? (name : String) : Option Operator :=
  all.find? fun op => Text.equalIgnoringCase op.mnemonic name

/-- The operators whose bits are set, in the order in which they run. -/
def decode (flags : UInt8) : List Operator :=
  all.filter fun op => flags &&& op.flag != 0

/-- The flags of a list of operators together. -/
def encode (operators : List Operator) : UInt8 :=
  operators.foldl (fun flags op => flags ||| op.flag) 0

/-- What the operator makes of the accumulator. -/
def apply : Operator → UInt8 → UInt8
  | clear, _ => 0
  | complement, a => ~~~a
  | increment, a => a + 1
  | shiftLeft, a => a <<< 1
  | shiftRight, a => a >>> 1

/-- What the operators make of the accumulator, one after the other. -/
def applyAll (operators : List Operator) (a : UInt8) : UInt8 :=
  operators.foldl (fun a op => op.apply a) a

end Operator

end AccumulatorMachine
