import AccumulatorMachine.Source.Cursor
import AccumulatorMachine.Text.WordCharacter

/-!
# How tokens are spelled

A lexeme is a token if it is spelled like one of the five kinds. A name begins
with an ASCII letter or an underscore and goes on with word characters. A label
is a name and a colon, an address a name in brackets, an identifier a bare
name. A number begins with a digit and must be a numeral of a byte. A string
stands between quotation marks and holds plain characters and pairs of a
backslash and another character.

The spellings exclude each other: they differ in their first character, and a
name holds no colon.
-/

namespace AccumulatorMachine

namespace Spelling

/-- Whether a name may begin with `c`. -/
def startsName (c : Char) : Bool :=
  c.isAlpha || c == '_'

/-- Whether the text is a name. -/
def isName : List Char → Bool
  | [] => false
  | c :: rest => startsName c && rest.all Text.isWordCharacter

/-- The name in front of `last`, if the text is a name and that character. -/
def nameBefore? (last : Char) (text : List Char) : Option (List Char) :=
  if text.getLast? = some last ∧ isName text.dropLast then some text.dropLast else none

/-- The name of a label. -/
def label? (text : List Char) : Option (List Char) :=
  nameBefore? ':' text

/-- The name in an address. -/
def address? : List Char → Option (List Char)
  | '[' :: inside => nameBefore? ']' inside
  | _ => none

/-- Whether the text begins with a digit, so that it can only be a number. -/
def startsNumber : List Char → Bool
  | [] => false
  | c :: _ => c.isDigit

/-- The characters up to the closing quotation mark, if that mark is the last
character. A backslash pairs with any character but a line feed. -/
def body? : List Char → Option (List Char)
  | [] => none
  | ['"'] => some []
  | '"' :: _ => none
  | '\\' :: c :: rest => if c = '\n' then none else (body? rest).map ('\\' :: c :: ·)
  | ['\\'] => none
  | c :: rest => (body? rest).map (c :: ·)

/-- The characters between the quotation marks of a string, as written. -/
def string? : List Char → Option (List Char)
  | '"' :: rest => body? rest
  | _ => none

/-- The character that a backslash and `c` stand for, if the pair has a meaning. -/
def escape? (c : Char) : Option Char :=
  match c with
  | 'n' => some '\n'
  | 't' => some '\t'
  | 'r' => some '\r'
  | '0' => some '\x00'
  | '\\' => some '\\'
  | '"' => some '"'
  | _ => none

/-- The characters that the body of a string stands for. A pair without a
meaning stands for itself, and so does a backslash with nothing behind it. -/
def unescape : List Char → List Char
  | [] => []
  | '\\' :: c :: rest =>
    match escape? c with
    | some meant => meant :: unescape rest
    | none => '\\' :: c :: unescape rest
  | c :: rest => c :: unescape rest

/-- The bytes that are the code points of the characters, or the first
character that has a larger one. -/
def bytes : List Char → Except Char (List UInt8)
  | [] => .ok []
  | c :: rest =>
    if c.toNat ≤ 255 then (bytes rest).map (UInt8.ofNat c.toNat :: ·) else .error c

end Spelling

namespace Token

/-- The token that a lexeme is, or what is wrong with it. -/
def ofLexeme (lexeme : Lexeme) : Except Fault Token :=
  let text := lexeme.text.toList
  let token := fun kind value => Token.mk kind lexeme.text value lexeme.span
  let flawed := fun flaw => Fault.invalidLiteral lexeme.text flaw lexeme.span
  match Spelling.label? text with
  | some name => .ok (token .label (.name (String.ofList name)))
  | none =>
    match Spelling.address? text with
    | some name => .ok (token .address (.name (String.ofList name)))
    | none =>
      if Spelling.startsNumber text then
        match Text.readDecimal 255 text with
        | .ok value => .ok (token .number (.byte (UInt8.ofNat value)))
        | .error flaw => .error (flawed (.numeral flaw))
      else
        match Spelling.string? text with
        | some body =>
          match Spelling.bytes (Spelling.unescape body) with
          | .ok values => .ok (token .string (.bytes values))
          | .error c => .error (flawed (.wideCharacter c))
        | none =>
          if Spelling.isName text then .ok (token .identifier (.name lexeme.text))
          else .error (.unknownToken lexeme.text lexeme.span)

end Token

end AccumulatorMachine
