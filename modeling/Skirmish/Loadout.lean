import Skirmish.Catalog

/-!
# Loadouts

The name of the active card in each slot. Equipping a card replaces the one in its slot. The
loadout to start with, and to go back to, has the catalog's first starter card in every slot, or
nothing where the catalog has none.
-/

namespace Skirmish

structure Loadout where
  /-- A name or nothing for each slot, in the order of the slots. -/
  names : Vector (Option String) 6 := Vector.replicate 6 none
  deriving DecidableEq, Repr

namespace Loadout

/-- The name of the card in a slot. -/
def nameIn (l : Loadout) (slot : Slot) : Option String := l.names[slot.index]

def equip (l : Loadout) (card : Card) : Loadout where
  names := l.names.set card.slot.index (some card.name)

/-- The starter cards of a catalog. -/
def starter (c : Catalog) : Loadout where
  names := Vector.ofFn fun i => (c.starter? (Slot.ofIndex i)).map (·.name)

/-- The card is the active one in its slot. -/
def equipped (l : Loadout) (card : Card) : Bool := l.nameIn card.slot == some card.name

/-- The occupied slots and the names of their cards, in the order of the slots. -/
def toList (l : Loadout) : List (Slot × String) :=
  Slot.all.filterMap fun slot => (l.nameIn slot).map (slot, ·)

theorem nameIn_equip (l : Loadout) (card : Card) (slot : Slot) :
    (l.equip card).nameIn slot =
      if card.slot = slot then some card.name else l.nameIn slot := by
  simp [nameIn, equip, Vector.getElem_set, Fin.val_inj, Slot.index_inj]

theorem nameIn_starter (c : Catalog) (slot : Slot) :
    (starter c).nameIn slot = (c.starter? slot).map (·.name) := by
  cases slot <;> simp [nameIn, starter, Slot.index, Slot.ofIndex]

end Loadout

end Skirmish
