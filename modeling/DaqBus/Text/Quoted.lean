import DaqBus.Text.Numeral
import DaqBus.Text.Plain
/-!
Text in double quotes. The quote, the backslash and the common control characters get a backslash,
other characters that are not plain are written by their number.
-/

namespace DaqBus.Text

def quotedChar (c : Char) : String :=
  if c = '\x00' then "\\0"
  else if c = '\t' then "\\t"
  else if c = '\r' then "\\r"
  else if c = '\n' then "\\n"
  else if c = '\\' then "\\\\"
  else if c = '"' then "\\\""
  else if isPlain c then c.toString
  else "\\u\x7b" ++ hex 1 c.toNat ++ "\x7d"

def quoted (s : String) : String :=
  "\"" ++ String.join (s.toList.map quotedChar) ++ "\""

end DaqBus.Text
