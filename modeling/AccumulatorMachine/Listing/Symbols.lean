import AccumulatorMachine.Listing.Style
import AccumulatorMachine.Text.Numeral

/-!
# Listings of symbols

The table of the labels of a program with their addresses, in the order of
their definition. The names are filled up with spaces to one number of
characters, which is the largest number of bytes that a name takes. A name
never has more characters than bytes, so none is cut and the addresses stand in
one column.
-/

namespace AccumulatorMachine

namespace Listing

/-- The number of columns for the names: the bytes of the longest one. -/
def symbolWidth (symbols : List (String × UInt8)) : Nat :=
  (symbols.map fun symbol => symbol.1.utf8ByteSize).foldl max 0

/-- The row of one label. -/
def symbolRow (style : ListingStyle) (width : Nat) (symbol : String × UInt8) : String :=
  style.bold (Text.alignLeft width symbol.1) ++ "  " ++
    Text.alignRight 2 ' ' (Text.decimal symbol.2.toNat)

/-- The table of labels. -/
def ofSymbols (style : ListingStyle) (symbols : List (String × UInt8)) : String :=
  ofRows (symbols.map (symbolRow style (symbolWidth symbols)))

end Listing

end AccumulatorMachine
