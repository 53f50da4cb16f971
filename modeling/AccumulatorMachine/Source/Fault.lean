import AccumulatorMachine.Source.KindSet
import AccumulatorMachine.Text.Numeral

/-!
# Faults of a source text

Everything that can be wrong with a source text, one constructor per cause with
the facts of the case. The wording is kept apart from the causes: `Fault.message`
says what is wrong, `Fault.code` names the cause, `Fault.help` says what to do,
and `Fault.labels` points at the places in the source.
-/

namespace AccumulatorMachine

/-- What is wrong with a literal. -/
inductive LiteralFlaw
  /-- The number is not a decimal numeral or is too large for a byte. -/
  | numeral (flaw : Text.NumeralFlaw)
  /-- A character of a string has a code point beyond a byte. -/
  | wideCharacter (c : Char)
  deriving DecidableEq

namespace LiteralFlaw

/-- The flaw in words. -/
def reason : LiteralFlaw → String
  | numeral .invalidDigit => "invalid digit found in string"
  | numeral .tooLarge => "number too large to fit in target type"
  | wideCharacter c => "`" ++ c.toString ++ "` does not fit in a word"

end LiteralFlaw

/-- How many operands an instruction takes. -/
inductive Arity
  /-- This many. -/
  | exactly (count : Nat)
  /-- Any number from the first to the second. -/
  | between (least most : Nat)
  deriving DecidableEq

namespace Arity

/-- The number of operands in words. -/
def text : Arity → String
  | exactly count => Text.decimal count
  | between least most => Text.decimal least ++ " to " ++ Text.decimal most

end Arity

/-- A reason why a source text cannot be assembled. -/
inductive Fault
  /-- A word is no token. -/
  | unknownToken (token : String) (span : Span)
  /-- A word has the shape of a literal without being one. -/
  | invalidLiteral (token : String) (flaw : LiteralFlaw) (span : Span)
  /-- A string is not closed on its line. -/
  | unterminatedString (span : Span)
  /-- A line has something else, or nothing, where its instruction should be. -/
  | expectedInstruction (found : Option String) (span : Span)
  /-- No instruction has this mnemonic. -/
  | unknownInstruction (mnemonic : String) (span : Span)
  /-- No operator has this name. -/
  | unknownOperator (name : String) (span : Span)
  /-- A label stands in front of two statements. -/
  | duplicateLabel (label : String) (span first : Span)
  /-- An instruction has the wrong number of operands. -/
  | wrongArity (mnemonic : String) (expected : Arity) (found : Nat) (span : Span)
  /-- An operand is of a kind that its position does not accept. -/
  | wrongKind (mnemonic : String) (index : Nat) (expected : KindSet) (found : TokenKind)
      (span : Span)
  /-- An address names a label that no statement has. -/
  | unresolvedReference (label : String) (span : Span)
  /-- The statements take more words than there are. -/
  | programTooLarge (size capacity : Nat)
  deriving DecidableEq

namespace Fault

/-- What is wrong, in words. -/
def message : Fault → String
  | unknownToken token _ => "Encountered an unknown token `" ++ token ++ "`"
  | invalidLiteral token flaw _ =>
    "Encountered an invalid literal `" ++ token ++ "`: " ++ flaw.reason
  | unterminatedString _ => "Encountered an unterminated string literal"
  | expectedInstruction found _ =>
    "Expected instruction, found `" ++ found.getD "end of line" ++ "`"
  | unknownInstruction mnemonic _ => "Unknown instruction `" ++ mnemonic ++ "`"
  | unknownOperator name _ => "Unknown operator `" ++ name ++ "`"
  | duplicateLabel label _ _ => "Duplicate label `" ++ label ++ "`"
  | wrongArity mnemonic expected found _ =>
    "Instruction `" ++ mnemonic ++ "` expected " ++ expected.text ++ " operands, found " ++
      Text.decimal found
  | wrongKind mnemonic index expected found _ =>
    "Instruction `" ++ mnemonic ++ "` expected operand " ++ Text.decimal index ++
      " to be of type " ++ expected.text ++ ", found " ++ found.name
  | unresolvedReference label _ => "Unknown reference `" ++ label ++ "`"
  | programTooLarge size capacity =>
    "Program is " ++ Text.decimal size ++ " words long but memory only holds " ++
      Text.decimal capacity

/-- The name of the cause, after the stage of the work that finds it. -/
def code : Fault → String
  | unknownToken .. => "lex::unknown"
  | invalidLiteral .. => "lex::bad_lit"
  | unterminatedString .. => "lex::str_lit"
  | expectedInstruction .. => "parse::expected_instruction"
  | unknownInstruction .. => "compile::unknown_instruction"
  | unknownOperator .. => "compile::unknown_operator"
  | duplicateLabel .. => "compile::duplicate_label"
  | wrongArity .. => "compile::arity"
  | wrongKind .. => "compile::operand_type"
  | unresolvedReference .. => "link::unresolved"
  | programTooLarge .. => "assemble::too_large"

/-- What to do about it, in words. -/
def help : Fault → String
  | unknownToken .. =>
    "operands are `[label]` addresses, decimal numbers, \"strings\" or names"
  | invalidLiteral .. => "every value must fit in a single 8-bit word"
  | unterminatedString .. => "make sure to close string literals with a \" character"
  | expectedInstruction .. =>
    "lines should start with an optional `label:` followed by an instruction"
  | unknownInstruction .. =>
    "available instructions are OPR CLR NOT INC ROL ROR LD ST ADD AND JMP JZ OUT DB"
  | unknownOperator .. => "OPR combines any of CLR NOT INC ROL ROR"
  | duplicateLabel .. => "labels may only be defined once per program"
  | wrongArity .. => "check the number of operands for this instruction"
  | wrongKind .. => "check the type of operands allowed for this instruction"
  | unresolvedReference label _ =>
    "define the label with `" ++ label ++ ":` in front of an instruction"
  | programTooLarge .. => "shorten the program or its data"

/-- The places of the source that the fault is about, each with a note. -/
def labels : Fault → List (String × Span)
  | unknownToken _ span => [("unknown token", span)]
  | invalidLiteral _ _ span => [("incorrect literal", span)]
  | unterminatedString span => [("incorrect literal", span)]
  | expectedInstruction _ span => [("expected instruction", span)]
  | unknownInstruction _ span => [("unknown instruction", span)]
  | unknownOperator _ span => [("unknown operator", span)]
  | duplicateLabel _ span first => [("duplicate label", span), ("first defined here", first)]
  | wrongArity _ _ _ span => [("wrong number of operands", span)]
  | wrongKind _ _ _ _ span => [("unexpected operand", span)]
  | unresolvedReference _ span => [("undefined label", span)]
  | programTooLarge .. => []

end Fault

end AccumulatorMachine
