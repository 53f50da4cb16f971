/-!
# Tables of code point ranges

A property of characters that no formula gives is a table: closed ranges of
code points in increasing order. `RangeTable.covers` asks whether some range of
the table holds a code point. The tables themselves stand in the modules of
the properties they describe.
-/

namespace AccumulatorMachine.Text

/-- A set of code points, written as closed ranges. -/
structure RangeTable where
  /-- The first and the last code point of each range. -/
  ranges : List (Nat × Nat)

namespace RangeTable

/-- Whether some range of the table holds the code point `n`. -/
def covers (table : RangeTable) (n : Nat) : Bool :=
  table.ranges.any fun range => decide (range.1 ≤ n) && decide (n ≤ range.2)

/-- The code point of a character decides membership. -/
def holds (table : RangeTable) (c : Char) : Bool :=
  table.covers c.toNat

end RangeTable

end AccumulatorMachine.Text
