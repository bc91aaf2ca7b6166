import Skirmish.Card
import Std.Data.HashMap

/-!
# Catalogs

A catalog holds cards of different names in the order in which they were added, and finds them by
name. Clauses that cannot be read do not keep a card out; `check` reports the first of them.
-/

namespace Skirmish

structure Catalog where
  /-- The cards in the order in which they were added. -/
  cards : Array Card := #[]
  /-- The place of every name among the cards. -/
  places : Std.HashMap String Nat := {}

namespace Catalog

/-- Adds the card of an entry behind the others. -/
def add (c : Catalog) (e : Entry) : Except Fault Catalog :=
  if c.places.contains e.name then
    .error (.duplicateCard e.name)
  else
    .ok
      { cards := c.cards.push (Card.ofEntry e)
        places := c.places.insert e.name c.cards.size }

/-- The catalog of some entries, in their order, unless two share a name. -/
def ofEntries (entries : List Entry) : Except Fault Catalog :=
  entries.foldlM add {}

def toList (c : Catalog) : List Card := c.cards.toList

def size (c : Catalog) : Nat := c.cards.size

def isEmpty (c : Catalog) : Bool := c.cards.isEmpty

/-- The card of a name. -/
def get? (c : Catalog) (name : String) : Option Card :=
  c.places[name]?.bind (c.cards[·]?)

/-- The card of a name, which ought to be there. -/
def find (c : Catalog) (name : String) : Except Fault Card :=
  match c.get? name with
  | some card => .ok card
  | none => .error (.unknownCard name)

def contains (c : Catalog) (name : String) : Bool := c.places.contains name

/-- The cards of one slot and rarity, in order. -/
def select (c : Catalog) (slot : Slot) (rarity : Rarity) : List Card :=
  c.toList.filter fun card => card.slot = slot ∧ card.rarity = rarity

/-- The first starter card of a slot. -/
def starter? (c : Catalog) (slot : Slot) : Option Card := (c.select slot .starter).head?

/-- Every fault of a description, with its card's name. -/
def faults (c : Catalog) : List (String × Fault) :=
  c.toList.flatMap fun card => card.faults.map (card.name, ·)

/-- The first fault of a description, if there is one. -/
def check (c : Catalog) : Except Fault Unit :=
  match c.faults with
  | [] => .ok ()
  | (_, fault) :: _ => .error fault

end Catalog

end Skirmish
