import Skirmish.Text.Unprintable

/-!
# Quoted text

How a message quotes a name or a piece of a card's text: between double quotes, with a backslash
before quotes and backslashes, short escapes for tab, line feed, carriage return and the null
character, and the code point in braces for every other character that would not be seen.
-/

namespace Skirmish.Text

/-- The written form of one character inside quotes. -/
def escape (c : Char) : List Char :=
  if c = '"' then ['\\', '"']
  else if c = '\\' then ['\\', '\\']
  else if c = '\t' then ['\\', 't']
  else if c = '\n' then ['\\', 'n']
  else if c = '\r' then ['\\', 'r']
  else if c = '\x00' then ['\\', '0']
  else if isUnprintable c then
    ['\\', 'u', '\x7b'] ++ Nat.toDigits 16 c.toNat ++ ['\x7d']
  else [c]

/-- The text between double quotes. -/
def quote (s : String) : String :=
  String.ofList ('"' :: s.toList.flatMap escape ++ ['"'])

end Skirmish.Text
