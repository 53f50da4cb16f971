/-!
# Listing styles

Listings are written in one of three ways: minimal, for programs to read;
plain; and coloured, where some texts are dim or bold. Minimal listings have no
header and no colour. Colour is a sequence of characters in front of a text and
one behind it, which take no room on the screen; `decolour` takes such
sequences out again. The sequence behind a text switches all effects off, so
where a text holds it itself, the effect is switched on again at once.
-/

namespace AccumulatorMachine

/-- How a listing is written. -/
structure ListingStyle where
  /-- Whether the listing is kept to what a program needs. -/
  minimal : Bool
  /-- Whether the screen shows colour. -/
  coloured : Bool
  deriving DecidableEq

namespace ListingStyle

/-- The style in which a listing starts out: neither minimal nor coloured. -/
def plain : ListingStyle :=
  ⟨false, false⟩

/-- The sequence that switches all effects off. -/
def allOff : String :=
  "\x1b[0m"

/-- The text with `start` behind every sequence that switches all effects off. -/
def restart (start : List Char) : List Char → List Char
  | [] => []
  | '\x1b' :: '[' :: '0' :: 'm' :: rest => allOff.toList ++ start ++ restart start rest
  | c :: rest => c :: restart start rest

/-- The text between the sequence that switches an effect on and the one
that switches all of them off, where the style has colour. -/
def paint (style : ListingStyle) (effect text : String) : String :=
  if style.coloured && !style.minimal then
    let start := "\x1b[" ++ effect ++ "m"
    start ++ String.ofList (restart start.toList text.toList) ++ allOff
  else text

/-- The text in faint characters. -/
def dim (style : ListingStyle) (text : String) : String :=
  style.paint "2" text

/-- The text in heavy characters. -/
def bold (style : ListingStyle) (text : String) : String :=
  style.paint "1" text

/-- The rows of a listing under its header, which a minimal listing leaves out. -/
def withHeader (style : ListingStyle) (header : String) (rows : List String) : List String :=
  if style.minimal then rows else style.bold header :: rows

end ListingStyle

namespace Listing

/-- The text of some rows, each ended by a line feed. -/
def ofRows (rows : List String) : String :=
  String.join (rows.map (· ++ "\n"))

/-- The characters without colour sequences, where `hidden` tells whether the
text begins inside one. A sequence runs from an escape character to the next
letter m, or to the end of the text. -/
def decolourFrom : Bool → List Char → List Char
  | _, [] => []
  | true, c :: rest => decolourFrom (c != 'm') rest
  | false, c :: rest =>
    if c = '\x1b' then decolourFrom true rest else c :: decolourFrom false rest

/-- The text without colour sequences. -/
def decolour (text : String) : String :=
  String.ofList (decolourFrom false text.toList)

end Listing

end AccumulatorMachine
