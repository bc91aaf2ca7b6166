import Skirmish.Action
import Skirmish.Fault
import Skirmish.Text.Numeral
import Skirmish.Text.Pieces

/-!
# Clauses

A clause of a card's description writes one action:

* `Cleanse`
* `Defend for 3`, and likewise `Heal`, `Burn`, `Poison` and `Spike`
* `Draw 2 cards`
* `Buff Healing by -1`
* `Attack for 2, randomly, 3 times`, where every modifier after a comma says that the attack
  strikes all, strikes at random, or is repeated

Amounts, counts and repeats are numbers below 2 ^ 16, and the amount of a buff is a signed number
of 16 bits. An attack deals at least 1, at least once.
-/

namespace Skirmish.Clause

open Text

/-- A number below 2 ^ 16. -/
def number? (cs : List Char) : Option Nat := natural? 65535 cs

def amount? (cs : List Char) : Option Amount := (number? cs).map Int64.ofNat

/-! ## Attacks -/

/-- What a piece of an attack clause says after the amount. -/
inductive Modifier where
  | area
  | random
  | times (n : Nat)
  deriving DecidableEq, Repr

/-- A modifier is known by a phrase anywhere in it, the first of these that it holds; a repeat
also begins with its count. -/
def modifier? (cs : List Char) : Option Modifier :=
  if holds "to all".toList cs then some .area
  else if holds "randomly".toList cs then some .random
  else if holds "times".toList cs then
    ((number? (cs.takeWhile (· ≠ ' '))).filter (1 ≤ ·)).map .times
  else none

/-- The attack under one more modifier; a later repeat replaces an earlier one. -/
def Modifier.apply (a : Attack) : Modifier → Attack
  | area => { a with area := true }
  | random => { a with random := true }
  | times n => { a with times := UInt32.ofNat n }

def attack? (cs : List Char) : Option Action :=
  match pieces ',' cs with
  | [] => none
  | head :: rest => do
    let amount ← ("Attack for ".toList.isPrefixOf? head).bind number?
    let modifiers ← rest.mapM modifier?
    if amount = 0 then
      none
    else
      some (.attack (modifiers.foldl Modifier.apply { amount := Int64.ofNat amount }))

/-! ## Other actions -/

def cleanse? (cs : List Char) : Option Action :=
  if cs = "Cleanse".toList then some .cleanse else none

/-- The amount after a keyword and `for`. -/
def worded? (keyword : String) (cs : List Char) : Option Amount :=
  ((keyword ++ " for ").toList.isPrefixOf? cs).bind amount?

def draw? (cs : List Char) : Option Action := do
  let (count, noun) ← ("Draw ".toList.isPrefixOf? cs).bind (cut? [' '])
  let n ← number? count
  if noun = "card".toList ∨ noun = "cards".toList then
    some (.draw (UInt32.ofNat n))
  else
    none

/-- The name of the stat and the amount of a buff, whether or not there is such a stat. -/
def buff? (cs : List Char) : Option (String × Amount) := do
  let (stat, amount) ← ("Buff ".toList.isPrefixOf? cs).bind (cut? " by ".toList)
  let n ← integer? (-32768) 32767 amount
  some (String.ofList stat, Int64.ofInt n)

/-- The action of a clause of any kind but a buff. -/
def plain? (cs : List Char) : Option Action :=
  cleanse? cs
    <|> (worded? "Defend" cs).map .defend
    <|> (worded? "Heal" cs).map .heal
    <|> (worded? "Burn" cs).map .burn
    <|> (worded? "Poison" cs).map .poison
    <|> (worded? "Spike" cs).map .spike
    <|> draw? cs
    <|> attack? cs

/-- Reads a clause. A buff of an unknown stat is a fault of its own, found only when the rest of
the clause is well written. -/
def read (cs : List Char) : Except Fault Action :=
  match buff? cs with
  | some (name, amount) =>
    match Stat.ofName? name with
    | some stat => .ok (.buff stat amount)
    | none => .error (.unknownStat name)
  | none =>
    match plain? cs with
    | some action => .ok action
    | none => .error (.unreadable (String.ofList cs))

/-- Reads a clause. -/
def parse (clause : String) : Except Fault Action := read clause.toList

end Skirmish.Clause
