import Rewind.CharSet
import Rewind.Unicode.Combining
import Rewind.Unicode.Unprintable

/-! Quoted text: one line between double quotes. Quotes, backslashes and the common controls are
escaped by a backslash; characters without a glyph of their own are written by number. -/
namespace Rewind.Text

/-- The code of a character in hexadecimal, between the braces of a numbered escape. -/
def numbered (c : Char) : List Char :=
  ['\\', 'u', '\x7b'] ++ Nat.toDigits 16 c.toNat ++ ['\x7d']

def escape (c : Char) : List Char :=
  if c = '\x00' then ['\\', '0']
  else if c = '\t' then ['\\', 't']
  else if c = '\r' then ['\\', 'r']
  else if c = '\n' then ['\\', 'n']
  else if c = '"' then ['\\', '"']
  else if c = '\\' then ['\\', '\\']
  else if Unicode.combining.contains c || Unicode.unprintable.contains c then numbered c
  else [c]

def quoted (cs : List Char) : List Char :=
  '"' :: cs.flatMap escape ++ ['"']

def quote (cs : List Char) : String := String.ofList (quoted cs)

end Rewind.Text
