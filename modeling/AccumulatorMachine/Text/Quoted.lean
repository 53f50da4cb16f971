import AccumulatorMachine.Text.Invisible
import AccumulatorMachine.Text.Numeral

/-!
# Quoted text

A text in quotation marks, as messages show it. The quotation mark and the
backslash are escaped, four control characters have short names, and every
other character without a visible shape of its own is written as its code
point in braces.
-/

namespace AccumulatorMachine.Text

/-- How one character stands inside quotation marks. -/
def escaped (c : Char) : String :=
  if c.toNat = 0 then "\\0"
  else if c = '\t' then "\\t"
  else if c = '\r' then "\\r"
  else if c = '\n' then "\\n"
  else if c = '"' then "\\\""
  else if c = '\\' then "\\\\"
  else if isInvisible c then "\\u\x7b" ++ hexadecimal c.toNat ++ "\x7d"
  else c.toString

/-- The text in quotation marks. -/
def quoted (text : String) : String :=
  "\"" ++ String.join (text.toList.map escaped) ++ "\""

end AccumulatorMachine.Text
