import FrameBus.Numeral
import FrameBus.Text.Printable

/-!
# Quoted texts

A text between double quotes for diagnostic output. Quotes, backslashes, tabs, line ends and NUL
have short escapes, other characters that do not show are written by their code point.
-/

namespace FrameBus.Text

/-- A character by its code point in braces. -/
def codePoint (c : Char) : List Char :=
  ['\\', 'u', '\x7b'] ++ Numeral.digits 16 c.toNat ++ ['\x7d']

def escape (c : Char) : List Char :=
  if c = '\x00' then ['\\', '0']
  else if c = '\t' then ['\\', 't']
  else if c = '\r' then ['\\', 'r']
  else if c = '\n' then ['\\', 'n']
  else if c = '"' then ['\\', '"']
  else if c = '\\' then ['\\', '\\']
  else if isPrintable c then [c]
  else codePoint c

def quoted (s : String) : String := String.ofList ('"' :: s.toList.flatMap escape ++ ['"'])

end FrameBus.Text
