import AccumulatorMachine.Listing.Style
import AccumulatorMachine.Machine.Basic

/-!
# Listings of memory

A row shows one memory word: its address, its value in decimal and in binary,
and the instruction that it would execute as. An image is listed row by row. In
the listing of a machine the word that memory is asked about and the word that
is fetched next are marked, in a column to the right of most instructions. The
column is counted in visible characters, so that colour does not move it.
-/

namespace AccumulatorMachine

namespace Listing

/-- The row of one memory word. -/
def memoryRow (style : ListingStyle) (index : Nat) (word : Word) : String :=
  Text.alignRight 3 ' ' (Text.decimal index) ++ "  " ++
    Text.alignRight 3 ' ' (Text.decimal word.toNat) ++ "  " ++
    style.dim (Text.binary word) ++ "  " ++
    Word.disassembly word

/-- What stands above the rows of memory words. -/
def memoryHeader : String :=
  "idx  dec  binary    instruction"

/-- The column in which the marks of a row stand. -/
def markColumn : Nat := 32

/-- The marks of the word at an index, where `address` is the word that memory is
asked about and `counter` the one that is fetched next. -/
def marks (address counter : UInt8) (index : Nat) : String :=
  (if index = address.toNat then " <AR" else "") ++ if index = counter.toNat then " <PC" else ""

/-- A row with marks behind it, if it has any. -/
def markedRow (row marks : String) : String :=
  if marks.isEmpty then row
  else
    row ++ String.ofList (List.replicate (markColumn - (decolour row).length) ' ') ++ marks

/-- The rows of the words of a machine. -/
def machineRows (style : ListingStyle) (machine : Machine) : List String :=
  machine.memory.words.toList.mapIdx fun index word =>
    markedRow (memoryRow style index word)
      (marks machine.memory.address machine.processor.programCounter index)

/-- The listing of the memory of a machine. -/
def ofMachine (style : ListingStyle) (machine : Machine) : String :=
  ofRows (style.withHeader memoryHeader (machineRows style machine))

/-- The rows of the words of an image. -/
def imageRows (style : ListingStyle) (image : List Word) : List String :=
  image.mapIdx fun index word => memoryRow style index word

/-- The listing of an image. -/
def ofImage (style : ListingStyle) (image : List Word) : String :=
  ofRows (style.withHeader memoryHeader (imageRows style image))

end Listing

end AccumulatorMachine
