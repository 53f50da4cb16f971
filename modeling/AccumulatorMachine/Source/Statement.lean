import AccumulatorMachine.Source.Lines
import AccumulatorMachine.Text.UpperCase

/-!
# Statements

A line of tokens is a statement: an optional label, the mnemonic of an
instruction, and operands. Operands are kept as they are, since what an
instruction accepts is decided later. The mnemonic is put into upper case, so
that it can be written in any case.
-/

namespace AccumulatorMachine

/-- A name for the address of the statement that it stands in front of. -/
structure Label where
  /-- The name, without the colon. -/
  name : String
  /-- The place of the name and its colon. -/
  span : Span
  deriving DecidableEq

/-- One line of source text. -/
structure Statement where
  /-- The label in front of the instruction. -/
  label : Option Label
  /-- The mnemonic, in upper case. -/
  mnemonic : String
  /-- The place of the mnemonic. -/
  span : Span
  /-- The operands, as written. -/
  operands : List Token
  deriving DecidableEq

namespace Label

/-- The label that a token is. A label token that holds no name has the empty name. -/
def ofToken (token : Token) : Label :=
  ⟨token.name?.getD "", token.span⟩

end Label

namespace Statement

/-- The statement of a label and the tokens behind it. Where no token is left,
the fault is reported right behind the label. -/
def ofRest (label : Option Label) : List Token → Except Fault Statement
  | [] =>
    .error (.expectedInstruction none
      ((label.map fun label => label.span.after).getD ⟨0, 0⟩))
  | token :: operands =>
    if token.kind = .identifier then
      .ok ⟨label, Text.upperCase token.literal, token.span, operands⟩
    else .error (.expectedInstruction (some token.literal) token.span)

/-- The statement of a line of tokens. A label can only come first. -/
def ofTokens : List Token → Except Fault Statement
  | [] => ofRest none []
  | token :: rest =>
    if token.kind = .label then ofRest (some (.ofToken token)) rest
    else ofRest none (token :: rest)

/-- The statements of lines of tokens, or the fault of the first line that is none. -/
def ofLines (lines : List (List Token)) : Except Fault (List Statement) :=
  lines.mapM ofTokens

end Statement

end AccumulatorMachine
