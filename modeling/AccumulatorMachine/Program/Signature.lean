import AccumulatorMachine.Source.Fault

/-!
# Operand signatures

What operands an instruction takes: either a fixed list of positions, or a
number of operands between two bounds that all accept the same kinds.
-/

namespace AccumulatorMachine

/-- The operands that an instruction takes. -/
inductive Signature
  /-- One set of kinds for each operand. -/
  | exact (kinds : List KindSet)
  /-- From `least` to `most` operands, all of the same kinds. -/
  | repeated (kinds : KindSet) (least most : Nat)
  deriving DecidableEq

namespace Signature

/-- Whether this many operands are accepted. -/
def acceptsCount : Signature → Nat → Bool
  | exact kinds, count => kinds.length == count
  | repeated _ least most, count => decide (least ≤ count) && decide (count ≤ most)

/-- How many operands are accepted, as messages give it. -/
def arity : Signature → Arity
  | exact kinds => .exactly kinds.length
  | repeated _ least most => .between least most

/-- The kinds accepted at a position, or `none` past the last one. -/
def kindsAt : Signature → Nat → Option KindSet
  | exact kinds, index => kinds[index]?
  | repeated kinds _ most, index => if index < most then some kinds else none

end Signature

end AccumulatorMachine
