import Skirmish.Chance
import Skirmish.Loadout
import Skirmish.Settings

/-!
# Rewards

A reward is drawn by choosing a slot, rolling a rarity, and choosing among the cards of both. If
there are none, the choice is among all cards of the slot whose rarity has a weight.

Several rewards differ from each other and from the equipped cards. They are drawn at random as
long as the attempts last, 64 for each of them; the rest are taken from the catalog in order. So
the draw ends with the asked number of cards for every source of randomness.
-/

namespace Skirmish

/-- What rewards are drawn from. -/
structure Rewards where
  catalog : Catalog
  settings : Settings

namespace Rewards

variable {σ : Type} [Chance σ]

/-- The card may be a reward at all. -/
def allowed (r : Rewards) (card : Card) : Bool := r.settings.hasWeight card.rarity

/-- The cards that a draw for a slot chooses among when a rarity was rolled. -/
def candidates (r : Rewards) (slot : Slot) (rarity : Rarity) : List Card :=
  let rolled := if r.settings.hasWeight rarity then r.catalog.select slot rarity else []
  if rolled.isEmpty then
    r.catalog.toList.filter fun card => card.slot = slot ∧ r.allowed card
  else
    rolled

def drawRarity (r : Rewards) (source : σ) : Rarity × σ :=
  let (roll, source) := Chance.unit source
  (r.settings.rarityFor roll, source)

/-- Draws a card for a slot. -/
def drawFor (r : Rewards) (slot : Slot) (source : σ) : Except Fault Card × σ :=
  let (rarity, source) := r.drawRarity source
  match r.candidates slot rarity with
  | [] => (.error (.noReward slot), source)
  | cards =>
    let (i, source) := Chance.index cards.length source
    match cards[i]? with
    | some card => (.ok card, source)
    | none => (.error (.noReward slot), source)

/-- Draws a card for a slot that is drawn, too. -/
def draw (r : Rewards) (source : σ) : Except Fault Card × σ :=
  let (i, source) := Chance.index Slot.all.length source
  r.drawFor (Slot.ofIndex ⟨i % 6, Nat.mod_lt i (by decide)⟩) source

/-! ## Several rewards -/

/-- The cards that may join the rewards of a loadout, in order. -/
def eligible (r : Rewards) (loadout : Loadout) : List Card :=
  r.catalog.toList.filter fun card => r.allowed card ∧ ¬loadout.equipped card

/-- The picked cards with one more, unless they are enough or hold its name. -/
def accept (count : Nat) (picked : List Card) (card : Card) : List Card :=
  if picked.length < count ∧ ¬picked.any (·.name = card.name) then picked ++ [card] else picked

/-- The picked cards after a card was drawn. An equipped one is left. -/
def acceptDrawn (loadout : Loadout) (count : Nat) (picked : List Card) (card : Card) : List Card :=
  if loadout.equipped card then picked else accept count picked card

/-- Draws until the picked cards are enough, at most `attempts` times. A draw that finds no card
only costs its attempt; any other fault ends the drawing. -/
def collect (r : Rewards) (loadout : Loadout) (count : Nat) :
    Nat → List Card → σ → Except Fault (List Card) × σ
  | 0, picked, source => (.ok picked, source)
  | attempts + 1, picked, source =>
    if picked.length < count then
      match r.draw source with
      | (.ok card, source) =>
        r.collect loadout count attempts (acceptDrawn loadout count picked card) source
      | (.error (.noReward _), source) => r.collect loadout count attempts picked source
      | (.error fault, source) => (.error fault, source)
    else
      (.ok picked, source)

def triesPerReward : Nat := 64

/-- Draws `count` cards of different names, none of them equipped. -/
def drawDistinct (r : Rewards) (count : Nat) (loadout : Loadout) (source : σ) :
    Except Fault (List Card) × σ :=
  let eligible := r.eligible loadout
  if eligible.length < count then
    (.error (.tooFewRewards count eligible.length), source)
  else
    let (collected, source) := r.collect loadout count (count * triesPerReward) [] source
    (collected.map (eligible.foldl (accept count)), source)

end Rewards

end Skirmish
