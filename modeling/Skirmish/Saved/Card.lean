import Skirmish.Loadout
import Skirmish.Saved.Fighter

/-!
# Saved cards

The saved forms of actions, cards as their author wrote them, and loadouts. An action is an object
whose only member is named for what it does, or the name alone for an action without amounts.
-/

namespace Skirmish.Saved

instance : Saved Slot where
  toJson s := .str s.name
  ofJson? := named? Slot.all Slot.name

instance : Saved Rarity where
  toJson r := .str r.name
  ofJson? := named? Rarity.all Rarity.name

instance : Saved Aim where
  toJson a := .str a.name
  ofJson? := named? Aim.all Aim.name

instance : Saved Targeting where
  toJson t := .str t.name
  ofJson? := named? Targeting.all Targeting.name

instance : Saved Attack where
  toJson a :=
    .obj
      [("amount", toJson a.amount), ("aoe", toJson a.area), ("random", toJson a.random),
        ("repeat", toJson a.times)]
  ofJson? v := do
    let f ← fields? ["amount", "aoe", "random", "repeat"] v
    some
      { amount := ← f.required "amount"
        area := ← f.required "aoe"
        random := ← f.required "random"
        times := ← f.required "repeat" }

/-- What stands under an action's name. -/
def actionBody : Action → Json
  | .attack a => toJson a
  | .defend n | .heal n | .burn n | .poison n | .spike n => .obj [("amount", toJson n)]
  | .draw n => .obj [("count", toJson n)]
  | .cleanse => .null
  | .buff s n => .obj [("kind", toJson s), ("amount", toJson n)]

def amount? (v : Json) : Option Amount := do
  let f ← fields? ["amount"] v
  f.required "amount"

def count? (v : Json) : Option UInt32 := do
  let f ← fields? ["count"] v
  f.required "count"

def buff? (v : Json) : Option Action := do
  let f ← fields? ["kind", "amount"] v
  some (.buff (← f.required "kind") (← f.required "amount"))

/-- The action of a name and what stands under it. -/
def action? (keyword : String) (v : Json) : Option Action :=
  match keyword with
  | "Attack" => (ofJson? v).map .attack
  | "Defend" => (amount? v).map .defend
  | "Heal" => (amount? v).map .heal
  | "Burn" => (amount? v).map .burn
  | "Poison" => (amount? v).map .poison
  | "Spike" => (amount? v).map .spike
  | "Draw" => (count? v).map .draw
  | "Cleanse" => if let .null := v then some .cleanse else none
  | "Buff" => buff? v
  | _ => none

instance : Saved Action where
  toJson a :=
    match actionBody a with
    | .null => .str a.keyword
    | v => .obj [(a.keyword, v)]
  ofJson?
    | .string (some keyword) => action? keyword .null
    | .object [(some keyword, v)] => action? keyword v
    | _ => none

/-- The saved members of an entry. -/
def entryFields (e : Entry) : List (String × Json) :=
  [("name", toJson e.name), ("slot", toJson e.slot), ("rarity", toJson e.rarity),
    ("target_mode", toJson e.aim), ("description", toJson e.description)]

instance : Saved Entry where
  toJson e := .obj (entryFields e)
  ofJson? v := do
    let f ← fields? ["name", "slot", "rarity", "target_mode", "description"] v
    some
      { name := ← f.required "name"
        slot := ← f.required "slot"
        rarity := ← f.required "rarity"
        aim := ← f.required "target_mode"
        description := ← f.required "description" }

instance : Saved Loadout where
  toJson l := .obj [("slots", toJson l.names.toList)]
  ofJson? v := do
    let f ← fields? ["slots"] v
    let names : List (Option String) ← f.required "slots"
    if h : names.length = 6 then some { names := ⟨names.toArray, by simpa using h⟩ } else none

end Skirmish.Saved
