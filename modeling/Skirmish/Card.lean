import Skirmish.Card.Traits
import Skirmish.Description

/-!
# Cards

An entry is a card as its author wrote it. A card is an entry whose description has been read once:
its actions, and the faults of the clauses that could not be read.
-/

namespace Skirmish

structure Entry where
  name : String
  slot : Slot
  rarity : Rarity
  aim : Aim
  description : String
  deriving DecidableEq, Repr

structure Card extends Entry where
  actions : List Action
  faults : List Fault
  deriving DecidableEq, Repr

/-- Reads the entry's description. -/
def Card.ofEntry (e : Entry) : Card :=
  let reading := Description.reading e.description
  { e with actions := reading.actions, faults := reading.faults }

theorem Card.toEntry_ofEntry (e : Entry) : (ofEntry e).toEntry = e := rfl

end Skirmish
