import AccumulatorMachine.Program.Mnemonic
import AccumulatorMachine.Proofs.Machine.Tick

/-!
# Operators as a set

Five bits of an instruction word have room for a set of operators and not for a list of
them. So what is written behind the instruction comes down to which operators are among
it: their flags are put together (`Operator.mem_decode_encode`), and a word, a listing
and the processor read them back in the order in which operators run
(`Operator.decode_encode`), however they were ordered and how often they were written.

Run one after the other in that order, the operators make of the accumulator what they
make of it as instructions of their own (`Mnemonic.encode_operate`).
-/

namespace AccumulatorMachine

/-- Texts with a separator in front of each are the texts with it between them. -/
theorem join_map_append (separator first : String) (rest : List String) :
    String.join (first :: rest.map (separator ++ ·)) = separator.intercalate (first :: rest) := by
  induction rest generalizing first with
  | nil =>
    rw [List.map_nil, String.join_cons, String.join_nil, String.append_empty,
      String.intercalate_singleton]
  | cons second rest ih =>
    rw [List.map_cons, String.intercalate_cons_cons, ← ih, String.join_cons, String.join_cons,
      String.join_cons, String.append_assoc, String.append_assoc]

namespace Operator

/-- **The operators of a list, each of them once**, in the order in which they run. -/
def inOrder (operators : List Operator) : List Operator :=
  all.filter fun op => op ∈ operators

/-- Every operator is in the list of all. -/
theorem mem_all (op : Operator) : op ∈ all := by
  cases op <;> decide

/-- The operators in order are those of the list. -/
theorem mem_inOrder {operators : List Operator} {op : Operator} :
    op ∈ inOrder operators ↔ op ∈ operators := by
  rw [inOrder, List.mem_filter, decide_eq_true_eq, and_iff_right (mem_all op)]

/-- Lists with the same operators have them in the same order. -/
theorem inOrder_eq_iff {operators others : List Operator} :
    inOrder others = inOrder operators ↔ ∀ op, op ∈ others ↔ op ∈ operators := by
  constructor
  · intro h op
    rw [← mem_inOrder, h, mem_inOrder]
  · intro h
    exact List.filter_congr fun op _ => decide_eq_decide.mpr (h op)

/-! ## Flags -/

/-- The flags of two operators have a bit in common only if they are the same. -/
theorem flag_and_flag_ne_zero_iff (op other : Operator) :
    other.flag &&& op.flag ≠ 0 ↔ op = other := by
  cases op <;> cases other <;> decide

/-- An operator is read from flags that have its bit. -/
theorem mem_decode_iff {flags : UInt8} {op : Operator} :
    op ∈ decode flags ↔ flags &&& op.flag ≠ 0 := by
  rw [decode, List.mem_filter, bne_iff_ne, and_iff_right (mem_all op)]

/-- One more flag is one more operator. -/
theorem mem_decode_or_flag {flags : UInt8} {op other : Operator} :
    op ∈ decode (flags ||| other.flag) ↔ op ∈ decode flags ∨ op = other := by
  have hbits : (flags ||| other.flag) &&& op.flag = flags &&& op.flag ||| other.flag &&& op.flag :=
    UInt8.toBitVec_inj.mp BitVec.and_or_distrib_right
  rw [mem_decode_iff, mem_decode_iff, ← flag_and_flag_ne_zero_iff, hbits, ne_eq,
    UInt8.or_eq_zero_iff, Decidable.not_and_iff_not_or_not]

/-- **The operators whose flags are put together** are those that are read back. -/
theorem mem_decode_encode {operators : List Operator} {op : Operator} :
    op ∈ decode (encode operators) ↔ op ∈ operators := by
  have hfrom : ∀ flags, op ∈ decode (operators.foldl (fun flags op => flags ||| op.flag) flags) ↔
      op ∈ decode flags ∨ op ∈ operators := by
    induction operators with
    | nil => exact fun flags => (or_iff_left List.not_mem_nil).symm
    | cons first operators ih =>
      intro flags
      rw [List.foldl_cons, ih, mem_decode_or_flag, List.mem_cons, or_assoc]
  have hnone : op ∉ decode 0 := by
    cases op <;> decide
  exact (hfrom 0).trans (or_iff_right hnone)

/-- **What is read back is in the order in which operators run.** -/
theorem decode_encode (operators : List Operator) :
    decode (encode operators) = inOrder operators := by
  refine List.filter_congr fun op _ => ?_
  rw [Bool.eq_iff_iff, bne_iff_ne, decide_eq_true_eq, ← mem_decode_iff, mem_decode_encode]

/-- The three bits above the flags are no operators. -/
theorem decode_and_mask (flags : UInt8) : decode (flags &&& 31) = decode flags :=
  Word.forall_of_values (P := fun flags => decode (flags &&& 31) = decode flags)
    (by decide +kernel) flags

/-- Flags that are read are written as they were. -/
theorem encode_decode (flags : UInt8) : encode (decode flags) = flags &&& 31 :=
  Word.forall_of_values (P := fun flags => encode (decode flags) = flags &&& 31)
    (by decide +kernel) flags

end Operator

/-! ## Words of operators -/

namespace Word

/-- The operators of a word are those that it was made with. -/
theorem decode_operand_ofParts (operators : List Operator) :
    Operator.decode (operand (ofParts .operate (Operator.encode operators)))
      = Operator.inOrder operators := by
  rw [operand_ofParts, Operator.decode_and_mask, Operator.decode_encode]

/-- **Words of the same operators are the same.** -/
theorem ofParts_encode_eq_iff {operators others : List Operator} :
    ofParts .operate (Operator.encode others) = ofParts .operate (Operator.encode operators) ↔
      ∀ op, op ∈ others ↔ op ∈ operators := by
  rw [← Operator.inOrder_eq_iff]
  constructor
  · intro h
    rw [← decode_operand_ofParts, h, decode_operand_ofParts]
  · intro h
    have hmask : Operator.encode others &&& 31 = Operator.encode operators &&& 31 := by
      rw [← Operator.encode_decode, ← Operator.encode_decode, Operator.decode_encode,
        Operator.decode_encode, h]
    rw [ofParts, ofParts, hmask]

/-- A word of operators is listed with their names. -/
theorem disassembly_of_operate {word : Word} (h : opcode word = .operate) :
    disassembly word
      = " ".intercalate ("OPR" :: (Operator.decode (operand word)).map Operator.mnemonic) := by
  rw [← join_map_append, List.map_map, disassembly, h]
  rfl

end Word

namespace Mnemonic

/-- The word of some operators. -/
theorem encode_operate_eq (operators : List Operator) :
    encode operate (operators.map .operator)
      = [Word.ofParts .operate (Operator.encode operators)] := by
  have hoperators : operatorsOf (operators.map fun op => (.operator op : Operand UInt8))
      = operators := by
    rw [operatorsOf, List.filterMap_map]
    exact List.filterMap_some
  rw [encode, hoperators]

end Mnemonic

/-! ## Running them -/

namespace Processor

/-- **The processor after it was handed a word**, took it apart and began to act on it.
An instruction that asks memory for nothing is over then. -/
def obey (cpu : Processor) (word : Word) : Processor :=
  { cpu with data := word, next := .decode }.advance.advance

/-- A processor obeys a word of operators by running them. -/
theorem obey_of_operate {word : Word} (h : Word.opcode word = .operate) (cpu : Processor) :
    (cpu.obey word).phase = .operate ∧
      (cpu.obey word).accumulator
        = Operator.applyAll (Operator.decode (Word.operand word)) cpu.accumulator := by
  have hnext : ({ cpu with data := word, next := .decode } : Processor).advance.next = .operate :=
    congrArg Phase.ofOpcode h
  rw [obey, advance_of_next hnext]
  exact ⟨rfl, rfl⟩

/-- The word of a single operator runs that one. -/
theorem obey_ofParts_flag (op : Operator) (cpu : Processor) :
    (cpu.obey (Word.ofParts .operate op.flag)).accumulator = op.apply cpu.accumulator := by
  have hdecode : Operator.decode (Word.operand (Word.ofParts .operate op.flag)) = [op] := by
    cases op <;> decide
  rw [(obey_of_operate (Word.opcode_ofParts .operate op.flag) cpu).2, hdecode]
  rfl

/-- **Operators as instructions of their own**, one after the other, make of the
accumulator what they make of it together. -/
theorem accumulator_foldl_obey (operators : List Operator) (cpu : Processor) :
    ((operators.flatMap fun op => Mnemonic.encode (.operator op) []).foldl obey cpu).accumulator
      = Operator.applyAll operators cpu.accumulator := by
  induction operators generalizing cpu with
  | nil => rfl
  | cons op operators ih =>
    rw [List.flatMap_cons, List.foldl_append, ih]
    exact congrArg (Operator.applyAll operators) (obey_ofParts_flag op cpu)

end Processor

namespace Mnemonic

/-- **Operators are a set that runs in a fixed order.** A list of them, of any length, in any
order and with repetitions, becomes one word. They are read back from it each once and in
the order in which they run; other lists become the same word exactly if the same
operators are in them; the word is listed with the names in that order; and whatever the
accumulator is, the processor makes of it in one phase what it makes of it by the
operators as instructions of their own, one after the other in that order. -/
theorem encode_operate (operators : List Operator) :
    ∃ word, encode operate (operators.map .operator) = [word] ∧
      Word.opcode word = .operate ∧
      Operator.decode (Word.operand word) = Operator.inOrder operators ∧
      (∀ others : List Operator, encode operate (others.map .operator) = [word] ↔
        ∀ op, op ∈ others ↔ op ∈ operators) ∧
      Word.disassembly word
        = " ".intercalate ("OPR" :: (Operator.inOrder operators).map Operator.mnemonic) ∧
      ∀ cpu : Processor,
        (cpu.obey word).phase = .operate ∧
        (cpu.obey word).accumulator
          = (((Operator.inOrder operators).flatMap fun op => encode (.operator op) []).foldl
              Processor.obey cpu).accumulator := by
  have hopcode : Word.opcode (Word.ofParts .operate (Operator.encode operators)) = .operate :=
    Word.opcode_ofParts _ _
  have hdecode := Word.decode_operand_ofParts operators
  refine ⟨_, encode_operate_eq operators, hopcode, hdecode, fun others => ?_, ?_, fun cpu => ?_⟩
  · rw [encode_operate_eq, List.singleton_inj, Word.ofParts_encode_eq_iff]
  · rw [Word.disassembly_of_operate hopcode, hdecode]
  · obtain ⟨hphase, haccumulator⟩ := Processor.obey_of_operate hopcode cpu
    exact ⟨hphase, by rw [haccumulator, hdecode, Processor.accumulator_foldl_obey]⟩

/-- Three operators, one of them twice: the last one written runs first. -/
example : (encode operate ([.shiftLeft, .increment, .shiftLeft, .clear].map .operator)).map
    Word.disassembly = ["OPR CLR INC ROL"] := by
  decide +kernel

end Mnemonic

end AccumulatorMachine
