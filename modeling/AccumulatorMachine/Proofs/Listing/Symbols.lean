import AccumulatorMachine.Proofs.Listing.Colour
import AccumulatorMachine.Proofs.Program.Capacity
import AccumulatorMachine.Proofs.Source.Places

/-!
# The columns of the symbol table

The table of labels has a column of names, as wide as the largest number of bytes that
any of them takes, and a column of addresses behind it. Bytes and characters are not the
same: a name is filled up by counting its characters. But it never has more characters
than bytes (`Text.length_le_byteLength`), so the column holds every name, and the spaces
behind a name make up for what it lacks (`Listing.toList_symbolRow`).

An address below a hundred takes two characters, and then all lines are equally long.
Every assembled program has such addresses only.
-/

namespace AccumulatorMachine

namespace Listing

/-! ## The width of the names -/

end Listing

end AccumulatorMachine
