import Skirmish.Catalog

/-!
# The built-in cards

Names, slots, rarities, aims and descriptions of the cards that come with the game. What a card
does is read from its description.
-/

namespace Skirmish.Catalog.Builtin

def mainHandCards : List Entry := [
  ⟨"Shortsword", .mainHand, .starter, .opponent, "Attack for 2"⟩,
  ⟨"Wand", .mainHand, .common, .opponent, "Burn for 1"⟩,
  ⟨"Staff", .mainHand, .common, .opponent, "Burn for 2"⟩,
  ⟨"Mace", .mainHand, .common, .everyone, "Attack for 3, to all"⟩,
  ⟨"Flail", .mainHand, .rare, .nobody, "Attack for 2, randomly, 3 times"⟩,
  ⟨"Flaming Arrow", .mainHand, .common, .opponent, "Attack for 2. Burn for 2"⟩,
  ⟨"Spear", .mainHand, .rare, .opponent, "Attack for 6"⟩,
  ⟨"Trident", .mainHand, .rare, .opponent, "Attack for 4. Heal for 4"⟩,
  ⟨"Scythe", .mainHand, .rare, .opponent, "Attack for 3. Poison for 3"⟩]

def offHandCards : List Entry := [
  ⟨"Wooden Shield", .offHand, .starter, .player, "Defend for 1"⟩,
  ⟨"Buckler", .offHand, .common, .player, "Defend for 2"⟩,
  ⟨"Dagger", .offHand, .common, .opponent, "Attack for 1"⟩,
  ⟨"Quiver", .offHand, .common, .opponent, "Attack for 1, randomly"⟩,
  ⟨"Spike Shield", .offHand, .common, .player, "Defend for 3. Spike for 2"⟩,
  ⟨"Tower Shield", .offHand, .rare, .player, "Defend for 5"⟩]

def allyCards : List Entry := [
  ⟨"Squirrel", .ally, .starter, .opponent, "Attack for 1"⟩,
  ⟨"Frog", .ally, .common, .player, "Heal for 1"⟩,
  ⟨"Rat", .ally, .common, .opponent, "Poison for 1"⟩,
  ⟨"Newt", .ally, .common, .opponent, "Burn for 1"⟩,
  ⟨"Toad", .ally, .rare, .opponent, "Heal for 1. Poison for 1"⟩,
  ⟨"Porcupine", .ally, .rare, .nobody, "Spike for 1"⟩,
  ⟨"Hamster", .ally, .rare, .opponent, "Draw 1 card"⟩]

def spiritCards : List Entry := [
  ⟨"Earth Spirit", .spirit, .starter, .player, "Buff Defense by 1"⟩,
  ⟨"Air Spirit", .spirit, .common, .nobody, "Buff Attacks by 1"⟩,
  ⟨"Fire Spirit", .spirit, .common, .opponent, "Buff Burn by 1"⟩,
  ⟨"Water Spirit", .spirit, .common, .player, "Buff Poison by 1"⟩,
  ⟨"Light Spirit", .spirit, .rare, .opponent, "Buff Healing by 1"⟩,
  ⟨"Dark Spirit", .spirit, .rare, .opponent, "Buff Spike by 1"⟩]

def spellCards : List Entry := [
  ⟨"Arcane Bolt", .spell, .starter, .nobody, "Attack for 1, randomly"⟩,
  ⟨"Fireball", .spell, .common, .opponent, "Burn for 3"⟩,
  ⟨"Life Drain", .spell, .common, .opponent, "Attack for 2. Heal for 2"⟩,
  ⟨"Lightning Strike", .spell, .rare, .nobody, "Attack for 4, randomly"⟩,
  ⟨"Heal", .spell, .rare, .player, "Heal for 5"⟩,
  ⟨"Blizzard", .spell, .rare, .everyone, "Attack for 3, to all"⟩,
  ⟨"Curse", .spell, .rare, .opponent, "Poison for 5"⟩]

def drinkCards : List Entry := [
  ⟨"Cup", .drink, .starter, .player, "Heal for 1"⟩,
  ⟨"Pouch", .drink, .common, .player, "Draw 1 card"⟩,
  ⟨"Tankard", .drink, .common, .nobody, "Heal for 1. Attack for 1, randomly"⟩,
  ⟨"Goblet", .drink, .common, .player, "Heal for 2"⟩,
  ⟨"Potion", .drink, .rare, .player, "Heal for 4"⟩,
  ⟨"Flagon", .drink, .rare, .opponent, "Heal for 1. Poison for 2"⟩,
  ⟨"Chalice", .drink, .rare, .player, "Heal for 1. Cleanse"⟩]

/-- Every built-in card, slot by slot. -/
def entries : List Entry :=
  mainHandCards ++ offHandCards ++ allyCards ++ spiritCards ++ spellCards ++ drinkCards

end Skirmish.Catalog.Builtin

namespace Skirmish

/-- The catalog of the built-in cards. -/
def Catalog.builtin : Except Fault Catalog := Catalog.ofEntries Catalog.Builtin.entries

end Skirmish
