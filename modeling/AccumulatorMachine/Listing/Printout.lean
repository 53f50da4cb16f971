import AccumulatorMachine.Listing.Style
import AccumulatorMachine.Text.Numeral

/-!
# Listings of the printout

The printout as a table shows each byte in decimal and hexadecimal, as a
character of three columns, and as a pattern of bits. As a text it is one
character for each byte, with the byte for a code point.
-/

namespace AccumulatorMachine

namespace Listing

/-- A byte as a character in three columns. Some control characters have names;
bytes that stand for no visible character of ASCII show as a dim line. -/
def characterColumn (style : ListingStyle) (byte : UInt8) : String :=
  if byte = 0x00 then "NUL"
  else if byte = 0x08 then "BS "
  else if byte = 0x09 then "HT "
  else if byte = 0x0A then "LF "
  else if byte = 0x0D then "CR "
  else if byte = 0x1B then "ESC"
  else if byte = 0x7F then "DEL"
  else if byte = 0x20 then "[_]"
  else if byte < 0x20 then style.dim "───"
  else if byte < 0x80 then Text.alignLeft 3 (Char.ofNat byte.toNat).toString
  else style.dim "┄┄┄"

/-- The bits of a byte: digits in a minimal listing, and blocks and dots otherwise. -/
def bitColumn (style : ListingStyle) (byte : UInt8) : String :=
  if style.minimal then Text.binary byte
  else String.ofList ((Text.bits byte).map fun bit => if bit then '█' else '·')

/-- The row of one printed byte. -/
def printoutRow (style : ListingStyle) (index : Nat) (byte : UInt8) : String :=
  Text.alignRight 3 ' ' (Text.decimal index) ++ "  " ++
    Text.alignRight 3 ' ' (Text.decimal byte.toNat) ++ "  0x" ++
    Text.alignRight 2 '0' (Text.hexadecimal byte.toNat) ++ "  " ++
    characterColumn style byte ++ "  " ++
    bitColumn style byte

/-- What stands above the rows of printed bytes. -/
def printoutHeader : String :=
  "  #  dec  hex   chr  bits"

/-- The printout as a table. -/
def ofPrintout (style : ListingStyle) (paper : List UInt8) : String :=
  ofRows (style.withHeader printoutHeader (paper.mapIdx (printoutRow style)))

/-- The printout as a text. -/
def printoutText (paper : List UInt8) : String :=
  String.ofList (paper.map fun byte => Char.ofNat byte.toNat)

end Listing

end AccumulatorMachine
