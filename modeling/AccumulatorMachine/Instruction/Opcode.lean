/-!
# Opcodes

The top three bits of an instruction word choose one of eight opcodes. Six of
them take the address in the lower five bits; of the other two, one reads those
bits as a set of operators and one ignores them. Every value of the three bits
is an opcode, so decoding cannot fail.
-/

namespace AccumulatorMachine

/-- The operations that name a memory word. -/
inductive AddressOp
  /-- Load a memory word into the accumulator. -/
  | load
  /-- Store the accumulator into memory. -/
  | store
  /-- Add a memory word to the accumulator. -/
  | add
  /-- Mask the accumulator with a memory word, bit by bit. -/
  | and
  /-- Go on at an address. -/
  | jump
  /-- Go on at an address if the accumulator is zero. -/
  | jumpIfZero
  deriving DecidableEq

namespace AddressOp

/-- The name of the operation in source text and listings. -/
def mnemonic : AddressOp → String
  | load => "LD"
  | store => "ST"
  | add => "ADD"
  | and => "AND"
  | jump => "JMP"
  | jumpIfZero => "JZ"

end AddressOp

/-- What an instruction word does. -/
inductive Opcode
  /-- Apply operators to the accumulator. -/
  | operate
  /-- Do something with the word at an address. -/
  | addressed (op : AddressOp)
  /-- Hand the accumulator to the printer. -/
  | output
  deriving DecidableEq

namespace Opcode

/-- The opcodes in the order of their codes. -/
def all : List Opcode :=
  [operate, addressed .load, addressed .store, addressed .add, addressed .and, addressed .jump,
    addressed .jumpIfZero, output]

/-- The three bits that stand for the opcode. -/
def code : Opcode → UInt8
  | operate => 0
  | addressed .load => 1
  | addressed .store => 2
  | addressed .add => 3
  | addressed .and => 4
  | addressed .jump => 5
  | addressed .jumpIfZero => 6
  | output => 7

/-- The opcode that the lowest three bits of `bits` stand for. -/
def ofBits (bits : UInt8) : Opcode :=
  match bits.toNat % 8 with
  | 0 => operate
  | 1 => addressed .load
  | 2 => addressed .store
  | 3 => addressed .add
  | 4 => addressed .and
  | 5 => addressed .jump
  | 6 => addressed .jumpIfZero
  | _ => output

/-- The name of the opcode in source text and listings. -/
def mnemonic : Opcode → String
  | operate => "OPR"
  | addressed op => op.mnemonic
  | output => "OUT"

/-- An opcode is read back from its code. -/
theorem ofBits_code (opcode : Opcode) : ofBits opcode.code = opcode := by
  rcases opcode with _ | op | _
  · rfl
  · cases op <;> rfl
  · rfl

/-- A code takes three bits. -/
theorem code_lt (opcode : Opcode) : opcode.code.toNat < 8 := by
  rcases opcode with _ | op | _
  · decide
  · cases op <;> decide
  · decide

end Opcode

end AccumulatorMachine
