/-!
# Numerals

Whole numbers written in decimal digits, with an optional sign, inside a range. `natural?` allows
a plus sign, `integer?` a plus or a minus sign; neither allows blanks, nor a sign alone.
-/

namespace Skirmish.Text

/-- The value of a run of decimal digits. -/
def digitsValue (cs : List Char) : Nat :=
  cs.foldl (fun n c => 10 * n + (c.toNat - '0'.toNat)) 0

/-- The number that one or more decimal digits write. -/
def digits? (cs : List Char) : Option Nat :=
  if cs ≠ [] ∧ cs.all Char.isDigit then some (digitsValue cs) else none

/-- The text without one leading plus sign. -/
def dropPlus : List Char → List Char
  | '+' :: cs => cs
  | cs => cs

/-- A number from zero to `largest`, with an optional plus sign. -/
def natural? (largest : Nat) (cs : List Char) : Option Nat :=
  (digits? (dropPlus cs)).filter (· ≤ largest)

/-- A whole number with an optional sign. -/
def signed? : List Char → Option Int
  | '-' :: ds => (digits? ds).map fun n : Nat => -(n : Int)
  | ds => (digits? (dropPlus ds)).map Int.ofNat

/-- A number from `least` to `largest`, with an optional sign. -/
def integer? (least largest : Int) (cs : List Char) : Option Int :=
  (signed? cs).filter fun n => least ≤ n ∧ n ≤ largest

end Skirmish.Text
