import AccumulatorMachine.Instruction.Opcode
import AccumulatorMachine.Instruction.Operator
import AccumulatorMachine.Text.Numeral

/-!
# Instruction words

An instruction is one byte: the opcode in the top three bits and an operand in
the bottom five. `Word.ofParts` puts the two together, keeping the low bits of
an operand that is too wide. `Word.opcode_ofParts` and `Word.operand_ofParts`
say that the parts come back, and `Word.ofParts_opcode_operand` that every byte
is the word of its own parts.
-/

namespace AccumulatorMachine

/-- A memory word. -/
abbrev Word := UInt8

/-- The number of words that five bits can address. -/
def capacity : Nat := 32

namespace Word

/-- The low five bits of a byte. -/
def operand (word : Word) : UInt8 :=
  word &&& 31

/-- The opcode of a word. -/
def opcode (word : Word) : Opcode :=
  Opcode.ofBits (word >>> 5)

/-- The word of an opcode and the low five bits of an operand. -/
def ofParts (opcode : Opcode) (operand : UInt8) : Word :=
  (opcode.code <<< 5) ||| (operand &&& 31)

/-- The word as the instruction that it would execute as. -/
def disassembly (word : Word) : String :=
  match opcode word with
  | .operate => String.join ("OPR" :: (Operator.decode (operand word)).map (" " ++ ·.mnemonic))
  | .addressed op => op.mnemonic ++ " " ++ Text.decimal (operand word).toNat
  | .output => "OUT"

/-- A property of all words, checked value by value. -/
theorem forall_of_values {P : Word → Prop} (check : ∀ n, n < 256 → P (UInt8.ofNat n))
    (word : Word) : P word := by
  have here := check word.toNat word.toNat_lt
  rwa [UInt8.ofNat_toNat] at here

/-- Every byte is the word of its opcode and its operand. -/
theorem ofParts_opcode_operand (word : Word) : ofParts (opcode word) (operand word) = word :=
  forall_of_values (P := fun word => ofParts (opcode word) (operand word) = word)
    (by decide +kernel) word

/-- A word made of parts has the opcode that it was made with. -/
theorem opcode_ofParts (made : Opcode) (low : UInt8) : opcode (ofParts made low) = made := by
  refine forall_of_values (P := fun low => opcode (ofParts made low) = made) ?_ low
  rcases made with _ | op | _
  · decide +kernel
  · cases op <;> decide +kernel
  · decide +kernel

/-- A word made of parts has the low five bits of the operand that it was made with. -/
theorem operand_ofParts (made : Opcode) (low : UInt8) :
    operand (ofParts made low) = low &&& 31 := by
  refine forall_of_values (P := fun low => operand (ofParts made low) = low &&& 31) ?_ low
  rcases made with _ | op | _
  · decide +kernel
  · cases op <;> decide +kernel
  · decide +kernel

end Word

end AccumulatorMachine
