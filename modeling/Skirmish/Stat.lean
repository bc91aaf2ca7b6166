/-!
# Stats

The six stats of a fighter that a buff may add to, in their listed order, and the names by which
a card description calls them.
-/

namespace Skirmish

/-- A stat that a buff adds to. -/
inductive Stat where
  | attack
  | defense
  | healing
  | burn
  | poison
  | spike
  deriving DecidableEq, Repr

namespace Stat

/-- Every stat, in order. -/
def all : List Stat := [attack, defense, healing, burn, poison, spike]

theorem mem_all (s : Stat) : s ∈ all := by
  cases s <;> decide

def name : Stat → String
  | attack => "Attack"
  | defense => "Defense"
  | healing => "Healing"
  | burn => "Burn"
  | poison => "Poison"
  | spike => "Spike"

/-- The stat of a name; attack also answers to its plural. -/
def ofName? (s : String) : Option Stat :=
  if s = "Attacks" then some attack else all.find? (·.name = s)

theorem ofName?_name (s : Stat) : ofName? s.name = some s := by
  cases s <;> decide

end Stat

end Skirmish
