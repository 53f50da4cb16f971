import AccumulatorMachine.Source.Spelling
import AccumulatorMachine.Text.Split

/-!
# The tokens of a source text

A source text is cut into lines at line feeds and each line into tokens. Lines
without tokens – blank ones and those that hold only a comment – leave nothing
behind. The first fault in the text, from its start, is the one reported.
-/

namespace AccumulatorMachine

namespace Cursor

/-- The tokens of the line from the cursor on. -/
def tokens (cursor : Cursor) : Except Fault (List Token) :=
  match found : cursor.nextLexeme with
  | (.error fault, _) => .error fault
  | (.ok none, _) => .ok []
  | (.ok (some lexeme), next) =>
    have := nextLexeme_shorter found
    match Token.ofLexeme lexeme with
    | .error fault => .error fault
    | .ok token => (tokens next).map (token :: ·)
termination_by cursor.rest.length

end Cursor

namespace Source

/-- The tokens of the lines that have any, where the first line begins `offset`
bytes into the source. -/
def tokensOfLines : List (List Char) → Nat → Except Fault (List (List Token))
  | [], _ => .ok []
  | line :: lines, offset =>
    match (Cursor.ofLine line offset).tokens with
    | .error fault => .error fault
    | .ok tokens =>
      (tokensOfLines lines (offset + Text.byteLength line + 1)).map fun others =>
        if tokens.isEmpty then others else tokens :: others

/-- The tokens of a source text, line by line. -/
def tokens (source : String) : Except Fault (List (List Token)) :=
  tokensOfLines (Text.splitOn '\n' source.toList) 0

end Source

end AccumulatorMachine
