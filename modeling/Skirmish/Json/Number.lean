import Skirmish.Json
import Skirmish.Text.Numeral

/-!
# Numbers of JSON

A number without fraction and exponent is an integer; `-0` is not, for it is read as the negative
zero of floating point.

A floating-point number is read in two steps. Digits are gathered into a significand as long as it
fits into 64 bits; of the digits that do not fit, those before the point raise the exponent and
those behind it are lost. The significand, rounded to a float, is then multiplied or divided by
the power of ten, each step rounded. A magnitude beyond every float is refused.
-/

namespace Skirmish.Json.Number

open Text

/-- The number is written without fraction and exponent. -/
def integral (n : Number) : Bool := n.fraction.isNone && n.exponent.isNone

/-- The integer that the number writes. -/
def int? (n : Number) : Option Int :=
  let magnitude := digitsValue n.whole
  if !n.integral then none
  else if !n.negative then some magnitude
  else if magnitude = 0 then none
  else some (-magnitude)

/-! ## Floating point -/

/-- Adds digits to a significand while it fits into 64 bits, and returns those that are left. -/
def gather (significand : Nat) : List Char → Nat × List Char
  | [] => (significand, [])
  | d :: ds =>
    let larger := 10 * significand + digitsValue [d]
    if larger < UInt64.size then gather larger ds else (significand, d :: ds)

/-- The exponent that the number writes. -/
def writtenExponent (n : Number) : Int :=
  match n.exponent with
  | none => 0
  | some (negative, ds) => if negative then -(digitsValue ds) else digitsValue ds

/-- The significand, and the exponent of ten that goes with it. -/
def scientific (n : Number) : Nat × Int :=
  let (significand, unread) := gather 0 n.whole
  let places := n.fraction.getD []
  let (significand, lost) := gather significand places
  (significand, n.writtenExponent + unread.length - (places.length - lost.length : Nat))

/-- The float nearest to a power of ten, up to the 308th. -/
def powerOfTen (n : Nat) : Float := Float.ofScientific 1 false n

/-- A float times a power of ten, unless that is beyond every float. Powers below the least are
taken in several steps. -/
def scale (x : Float) (exponent : Int) : Option Float :=
  if exponent.natAbs ≤ 308 then
    if 0 ≤ exponent then
      let y := x * powerOfTen exponent.natAbs
      if y.isInf then none else some y
    else
      some (x / powerOfTen exponent.natAbs)
  else if x == 0 then
    some x
  else if 0 ≤ exponent then
    none
  else
    scale (x / powerOfTen 308) (exponent + 308)
termination_by (-exponent).toNat

/-- The number as a float of 64 bits. -/
def toFloat? (n : Number) : Option Float :=
  let (significand, exponent) := n.scientific
  (scale (UInt64.ofNat significand).toFloat exponent).map fun x => if n.negative then -x else x

/-- The number as a float of 32 bits. An integer of 64 bits is rounded once, any other number by
way of a float of 64 bits. -/
def toFloat32? (n : Number) : Option Float32 :=
  match n.int? with
  | some i =>
    if 0 ≤ i ∧ i < UInt64.size then some (UInt64.ofNat i.natAbs).toFloat32
    else if Int64.minValue.toInt ≤ i ∧ i < 0 then some (-(UInt64.ofNat i.natAbs).toFloat32)
    else n.toFloat?.map Float.toFloat32
  | none => n.toFloat?.map Float.toFloat32

end Skirmish.Json.Number
