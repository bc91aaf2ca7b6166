import Skirmish.Json

/-!
# Writing JSON

`Json.print` writes a value without blanks. Strings escape quotes, backslashes and the control
characters below the space; every other character stands for itself.
-/

namespace Skirmish.Json.Printer

/-- A number below 256 by two hexadecimal digits. -/
def hexByte (n : Nat) : List Char := [Nat.digitChar (n / 16), Nat.digitChar (n % 16)]

/-- The written form of one character inside a string. -/
def escape (c : Char) : List Char :=
  if c = '"' then ['\\', '"']
  else if c = '\\' then ['\\', '\\']
  else if c = '\x08' then ['\\', 'b']
  else if c = '\x0c' then ['\\', 'f']
  else if c = '\n' then ['\\', 'n']
  else if c = '\r' then ['\\', 'r']
  else if c = '\t' then ['\\', 't']
  else if c.toNat < 0x20 then ['\\', 'u', '0', '0'] ++ hexByte c.toNat
  else [c]

/-- A string in quotes. One that has no text is written as half of a surrogate pair. -/
def string : Option String → List Char
  | some s => '"' :: s.toList.flatMap escape ++ ['"']
  | none => "\"\\ud800\"".toList

def number (n : Number) : List Char :=
  (if n.negative then ['-'] else []) ++ n.whole
    ++ (match n.fraction with
      | some ds => '.' :: ds
      | none => [])
    ++ (match n.exponent with
      | some (negative, ds) => 'e' :: (if negative then '-' :: ds else ds)
      | none => [])

mutual

/-- A value in front of the text that follows it. -/
def value (rest : List Char) : Json → List Char
  | .null => "null".toList ++ rest
  | .bool true => "true".toList ++ rest
  | .bool false => "false".toList ++ rest
  | .number n => number n ++ rest
  | .string s => string s ++ rest
  | .array [] => '[' :: ']' :: rest
  | .array (v :: vs) => '[' :: value (items (']' :: rest) vs) v
  | .object [] => '\x7b' :: '\x7d' :: rest
  | .object ((key, v) :: ms) =>
    '\x7b' :: (string key ++ ':' :: value (members ('\x7d' :: rest) ms) v)

/-- Values, each behind a comma. -/
def items (rest : List Char) : List Json → List Char
  | [] => rest
  | v :: vs => ',' :: value (items rest vs) v

/-- Members, each behind a comma. -/
def members (rest : List Char) : List (Option String × Json) → List Char
  | [] => rest
  | (key, v) :: ms => ',' :: (string key ++ ':' :: value (members rest ms) v)

end

end Skirmish.Json.Printer

namespace Skirmish

def Json.print (v : Json) : String := String.ofList (Json.Printer.value [] v)

end Skirmish
