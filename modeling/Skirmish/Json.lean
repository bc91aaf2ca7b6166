/-!
# JSON values

A value as its text writes it: numbers keep their digits, objects keep the order of their members
and any repeated keys. What to make of them is left to whoever reads the value.

The text of a string may be missing: it is `none` when an escape names half of a surrogate pair,
which is no character. Such a string is well formed, but only where nobody looks at it.
-/

namespace Skirmish

/-- A number by its digits. -/
structure Json.Number where
  negative : Bool := false
  whole : List Char
  fraction : Option (List Char) := none
  /-- Whether the exponent is negative, and its digits. -/
  exponent : Option (Bool × List Char) := none
  deriving DecidableEq, Repr

inductive Json where
  | null
  | bool (b : Bool)
  | number (n : Json.Number)
  | string (s : Option String)
  | array (items : List Json)
  | object (members : List (Option String × Json))
  deriving Repr

namespace Json

def str (s : String) : Json := string (some s)

/-- An object with the given members. -/
def obj (members : List (String × Json)) : Json :=
  object (members.map fun (key, value) => (some key, value))

def Number.ofInt (n : Int) : Number where
  negative := n < 0
  whole := Nat.toDigits 10 n.natAbs

def int (n : Int) : Json := number (.ofInt n)

def nat (n : Nat) : Json := int n

end Json

end Skirmish
