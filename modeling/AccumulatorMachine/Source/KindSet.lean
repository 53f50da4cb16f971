import AccumulatorMachine.Source.Token

/-!
# Sets of token kinds

An operand position accepts some kinds of token and refuses the others. A
`KindSet` answers for each kind by itself, so union is pointwise and two sets
are equal when they accept the same kinds.
-/

namespace AccumulatorMachine

/-- The kinds of token that an operand position accepts. -/
structure KindSet where
  /-- Whether labels are accepted. -/
  label : Bool
  /-- Whether addresses are accepted. -/
  address : Bool
  /-- Whether numbers are accepted. -/
  number : Bool
  /-- Whether strings are accepted. -/
  string : Bool
  /-- Whether identifiers are accepted. -/
  identifier : Bool
  deriving DecidableEq

namespace KindSet

/-- Whether the set holds `kind`. -/
def contains (set : KindSet) : TokenKind → Bool
  | .label => set.label
  | .address => set.address
  | .number => set.number
  | .string => set.string
  | .identifier => set.identifier

/-- The set of the kinds for which `accepts` is true. -/
def ofPredicate (accepts : TokenKind → Bool) : KindSet where
  label := accepts .label
  address := accepts .address
  number := accepts .number
  string := accepts .string
  identifier := accepts .identifier

/-- The set of the listed kinds. -/
def ofList (kinds : List TokenKind) : KindSet :=
  ofPredicate fun kind => decide (kind ∈ kinds)

/-- The kinds of the set, in their fixed order. -/
def toList (set : KindSet) : List TokenKind :=
  TokenKind.all.filter set.contains

/-- The names of the kinds, divided by bars. -/
def text (set : KindSet) : String :=
  String.intercalate "|" (set.toList.map TokenKind.name)

/-- A set made from a predicate answers as the predicate does. -/
@[simp] theorem contains_ofPredicate (accepts : TokenKind → Bool) (kind : TokenKind) :
    (ofPredicate accepts).contains kind = accepts kind := by
  cases kind <;> rfl

/-- A set made from a list holds the members of the list. -/
theorem contains_ofList (kinds : List TokenKind) (kind : TokenKind) :
    (ofList kinds).contains kind = decide (kind ∈ kinds) := by
  rw [ofList, contains_ofPredicate]

end KindSet

end AccumulatorMachine
