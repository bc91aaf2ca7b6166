/-!
# Traits of a card

The slot that a card occupies, how rare it is, and whom it asks its player to aim at.
-/

namespace Skirmish

/-- Where a card is worn. One card is active in each slot. -/
inductive Slot where
  | mainHand
  | offHand
  | ally
  | spirit
  | spell
  | drink
  deriving DecidableEq, Repr

namespace Slot

/-- Every slot, in order. -/
def all : List Slot := [mainHand, offHand, ally, spirit, spell, drink]

def name : Slot → String
  | mainHand => "MainHand"
  | offHand => "OffHand"
  | ally => "Ally"
  | spirit => "Spirit"
  | spell => "Spell"
  | drink => "Drink"

/-- The place of a slot in the order. -/
def index : Slot → Fin 6
  | mainHand => 0
  | offHand => 1
  | ally => 2
  | spirit => 3
  | spell => 4
  | drink => 5

/-- The slot at a place in the order. -/
def ofIndex : Fin 6 → Slot
  | 0 => mainHand
  | 1 => offHand
  | 2 => ally
  | 3 => spirit
  | 4 => spell
  | 5 => drink

theorem mem_all (s : Slot) : s ∈ all := by
  cases s <;> decide

theorem ofIndex_index (s : Slot) : ofIndex s.index = s := by
  cases s <;> rfl

theorem index_inj {s t : Slot} : s.index = t.index ↔ s = t :=
  ⟨fun h => by rw [← ofIndex_index s, h, ofIndex_index], congrArg index⟩

theorem index_ofIndex (i : Fin 6) : (ofIndex i).index = i := by
  revert i
  decide

end Slot

/-- How a card comes into a loadout: as part of the first one, or as a reward. -/
inductive Rarity where
  | starter
  | common
  | rare
  deriving DecidableEq, Repr

namespace Rarity

def all : List Rarity := [starter, common, rare]

def name : Rarity → String
  | starter => "Starter"
  | common => "Common"
  | rare => "Rare"

end Rarity

/-- Whom a card asks its player to aim at. -/
inductive Aim where
  | nobody
  | opponent
  | player
  | everyone
  deriving DecidableEq, Repr

namespace Aim

def all : List Aim := [nobody, opponent, player, everyone]

def name : Aim → String
  | nobody => "None"
  | opponent => "Unit"
  | player => "Self_"
  | everyone => "Aoe"

end Aim

end Skirmish
