import Skirmish.Description

/-!
# Writing clauses

The one text of each action that a description would use: an attack names its modifiers in a fixed
order and leaves out a repeat of one, a draw is always of `cards`, and numbers have neither a plus
sign nor needless zeros.
-/

namespace Skirmish

namespace Clause

def writtenNat (n : Nat) : List Char := Nat.toDigits 10 n

def writtenInt (n : Int) : List Char :=
  if n < 0 then '-' :: writtenNat n.natAbs else writtenNat n.natAbs

/-- The pieces of an attack clause between its commas. -/
def attackPieces (a : Attack) : List (List Char) :=
  ("Attack for ".toList ++ writtenInt a.amount.toInt)
    :: (if a.area then ["to all".toList] else [])
    ++ (if a.random then ["randomly".toList] else [])
    ++ (if a.times = 1 then [] else [writtenNat a.times.toNat ++ " times".toList])

def worded (keyword : String) (amount : Amount) : List Char :=
  (keyword ++ " for ").toList ++ writtenInt amount.toInt

/-- The clause of an action. -/
def render : Action → List Char
  | .attack a => Text.glue ',' (attackPieces a)
  | .defend n => worded "Defend" n
  | .heal n => worded "Heal" n
  | .burn n => worded "Burn" n
  | .poison n => worded "Poison" n
  | .spike n => worded "Spike" n
  | .draw n => "Draw ".toList ++ writtenNat n.toNat ++ " cards".toList
  | .cleanse => "Cleanse".toList
  | .buff s n =>
    "Buff ".toList ++ s.name.toList ++ " by ".toList ++ writtenInt n.toInt

end Clause

/-- The description of some actions. -/
def Description.render (actions : List Action) : String :=
  String.ofList (Text.glue '.' (actions.map Clause.render))

end Skirmish
