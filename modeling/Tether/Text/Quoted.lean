import Tether.Text.Unprintable
import Tether.Text.Combining

/-!
# Quoted text

Texts from outside are shown between double quotation marks, with an escape for
each character that could not be read back by eye: the quotation mark, the
backslash, tab, line feed, carriage return and NUL have short escapes, and every
other unprintable or combining character is shown by its hexadecimal number. An
apostrophe stands for itself.
-/
namespace Tether.Text

/-- The hexadecimal number of a character in lower case, between braces. -/
def numberEscape (c : Char) : List Char :=
  ['\\', 'u', '\x7b'] ++ Nat.toDigits 16 c.toNat ++ ['\x7d']

def escape (c : Char) : List Char :=
  if c = '"' then ['\\', '"']
  else if c = '\\' then ['\\', '\\']
  else if c = '\t' then ['\\', 't']
  else if c = '\n' then ['\\', 'n']
  else if c = '\r' then ['\\', 'r']
  else if c = '\x00' then ['\\', '0']
  else if isUnprintable c || isCombining c then numberEscape c
  else [c]

/-- The text between quotation marks, escaped. -/
def quoted (s : String) : String :=
  String.ofList (['"'] ++ s.toList.flatMap escape ++ ['"'])

end Tether.Text
