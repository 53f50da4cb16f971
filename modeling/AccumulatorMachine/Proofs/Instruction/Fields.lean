import AccumulatorMachine.Instruction.Word

/-!
# The fields of a word as numbers

A word is taken apart by shifting and masking. Read as numbers the two fields
are a quotient and a remainder by thirty-two: the opcode of a word stands in
`Opcode.all` at the quotient, and the operand is the remainder. An address
register holds five bits in eight, so its arithmetic is arithmetic modulo
thirty-two.
-/

namespace AccumulatorMachine

/-- Every opcode is in the list of all. -/
theorem Opcode.mem_all (opcode : Opcode) : opcode ∈ all := by
  rcases opcode with _ | op | _
  · decide
  · cases op <;> decide
  · decide

namespace Word

/-- Masking with five ones is taking the remainder by thirty-two. -/
theorem toNat_and_mask (x : UInt8) : (x &&& 31).toNat = x.toNat % 32 := by
  rw [UInt8.toNat_and]
  exact Nat.and_two_pow_sub_one_eq_mod x.toNat 5

/-- What is masked with five ones is below thirty-two. -/
theorem toNat_and_mask_lt (x : UInt8) : (x &&& 31).toNat < capacity := by
  rw [toNat_and_mask]
  exact Nat.mod_lt _ (by decide)

/-- The operand of a word is the remainder by thirty-two. -/
theorem toNat_operand (word : Word) : (operand word).toNat = word.toNat % 32 :=
  toNat_and_mask word

/-- A register of five bits is its own low half. -/
theorem and_mask_of_lt {x : UInt8} (hx : x.toNat < 32) : x &&& 31 = x := by
  refine UInt8.toNat_inj.mp ?_
  rw [toNat_and_mask, Nat.mod_eq_of_lt hx]

/-- Counting up in a register of five bits. -/
theorem toNat_add_one_and_mask (x : UInt8) : ((x + 1) &&& 31).toNat = (x.toNat + 1) % 32 := by
  rw [toNat_and_mask, UInt8.toNat_add, show (1 : UInt8).toNat = 1 from rfl]
  omega

/-- The top three bits of a word are the place of its opcode among all. -/
theorem top_lt (word : Word) : word.toNat / 32 < Opcode.all.length := by
  have hw := word.toNat_lt
  show word.toNat / 32 < 8
  omega

/-- **The opcode of a word stands at the quotient by thirty-two.** -/
theorem get_opcode (word : Word) : Opcode.all.get ⟨word.toNat / 32, top_lt word⟩ = opcode word := by
  have hsome : Opcode.all[word.toNat / 32]? = some (opcode word) :=
    forall_of_values (P := fun word => Opcode.all[word.toNat / 32]? = some (opcode word))
      (by decide +kernel) word
  rw [List.get_eq_getElem]
  exact (List.getElem_eq_iff (top_lt word)).mpr hsome

end Word

end AccumulatorMachine
