import AccumulatorMachine.Source.Span

/-!
# Tokens

A statement is written as tokens of five kinds. A token keeps the text it was
written as, what that text means, and where it stands.
-/

namespace AccumulatorMachine

/-- The kinds of token. -/
inductive TokenKind
  /-- A name with a colon, in front of an instruction. -/
  | label
  /-- A name in brackets, which stands for the address of a label. -/
  | address
  /-- A decimal number. -/
  | number
  /-- A text in quotation marks. -/
  | string
  /-- A bare name. -/
  | identifier
  deriving DecidableEq

namespace TokenKind

/-- The kinds in the order in which messages list them. -/
def all : List TokenKind :=
  [label, address, number, string, identifier]

/-- The name of the kind in messages. -/
def name : TokenKind → String
  | label => "label"
  | address => "address"
  | number => "number"
  | string => "string"
  | identifier => "identifier"

end TokenKind

/-- What a token means. -/
inductive TokenValue
  /-- The name in a label, an address or an identifier. -/
  | name (text : String)
  /-- The value of a number. -/
  | byte (value : UInt8)
  /-- The characters of a string, without the zero that ends them in memory. -/
  | bytes (values : List UInt8)
  deriving DecidableEq

/-- A piece of source text that is not divided further. -/
structure Token where
  /-- The kind of the token. -/
  kind : TokenKind
  /-- The text as written. -/
  literal : String
  /-- The meaning of the text. -/
  value : TokenValue
  /-- The place of the text. -/
  span : Span
  deriving DecidableEq

namespace Token

/-- The name that the token holds, if it holds one. -/
def name? (token : Token) : Option String :=
  match token.value with
  | .name text => some text
  | _ => none

end Token

end AccumulatorMachine
