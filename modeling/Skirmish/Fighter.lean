import Skirmish.Saturating
import Skirmish.Stat

/-!
# Fighters

A fighter has life below a ceiling, four counters (defense, burn, poison, spikes) that never fall
below zero, and a buff for each stat, which may be negative.

A hit is first soaked up by defense, unless it is poison, and the rest is lost as life; nothing
stops life at zero. A fighter with spikes answers an attack or a spell: the attacker takes the
spikes and their buff as spike damage. Spike damage provokes no answer, so an exchange of blows
ends there.
-/

namespace Skirmish

inductive DamageType where
  | attack
  | spell
  | burn
  | poison
  | spike
  deriving DecidableEq, Repr

namespace DamageType

def all : List DamageType := [attack, spell, burn, poison, spike]

def name : DamageType → String
  | attack => "Attack"
  | spell => "Spell"
  | burn => "Burn"
  | poison => "Poison"
  | spike => "Spike"

/-- Defense soaks up everything but poison. -/
def blockable : DamageType → Bool
  | poison => false
  | _ => true

/-- Only direct hits provoke spikes. -/
def provokes : DamageType → Bool
  | attack | spell => true
  | _ => false

end DamageType

/-- What each stat gains on top of a plain amount. -/
structure Buffs where
  attack : Amount := 0
  defense : Amount := 0
  healing : Amount := 0
  burn : Amount := 0
  poison : Amount := 0
  spike : Amount := 0
  deriving DecidableEq, Repr

namespace Buffs

def get (b : Buffs) : Stat → Amount
  | .attack => b.attack
  | .defense => b.defense
  | .healing => b.healing
  | .burn => b.burn
  | .poison => b.poison
  | .spike => b.spike

def modify (b : Buffs) (s : Stat) (f : Amount → Amount) : Buffs :=
  match s with
  | .attack => { b with attack := f b.attack }
  | .defense => { b with defense := f b.defense }
  | .healing => { b with healing := f b.healing }
  | .burn => { b with burn := f b.burn }
  | .poison => { b with poison := f b.poison }
  | .spike => { b with spike := f b.spike }

theorem get_modify (b : Buffs) (s t : Stat) (f : Amount → Amount) :
    (b.modify s f).get t = if s = t then f (b.get t) else b.get t := by
  cases s <;> cases t <;> rfl

end Buffs

structure Fighter where
  maxLife : Amount
  life : Amount
  defense : Amount := 0
  burn : Amount := 0
  poison : Amount := 0
  spike : Amount := 0
  buffs : Buffs := {}
  deriving DecidableEq, Repr

/-- What a hit did: the part that defense soaked up, the part that cost life, and the damage that
spikes sent back, if they did. -/
structure Impact where
  absorbed : Amount := 0
  lifeLost : Amount := 0
  reflected : Option Amount := none
  deriving DecidableEq, Repr

/-- The hit left no mark. -/
def Impact.harmless (i : Impact) : Bool :=
  i.absorbed == 0 && i.lifeLost == 0 && i.reflected.isNone

/-- Both sides of a blow after it fell. -/
structure Clash where
  struck : Fighter
  attacker : Fighter
  impact : Impact
  deriving DecidableEq, Repr

/-- One round of status damage: the burn hit and the poison hit, where there were any. -/
structure Decay where
  burn : Option Impact := none
  poison : Option Impact := none
  deriving DecidableEq, Repr

namespace Fighter

/-- A fighter at full life. -/
def fresh (maxLife : Amount) : Fighter where
  maxLife := maxLife
  life := maxLife

/-- The fighter at another life total, at most its ceiling. -/
def atLife (f : Fighter) (life : Amount) : Fighter :=
  { f with life := min life f.maxLife }

def defeated (f : Fighter) : Bool := f.life ≤ 0

/-! ## Damage -/

/-- The part of a hit that defense soaks up. -/
def soaked (f : Fighter) (amount : Amount) (type : DamageType) : Amount :=
  if type.blockable then min amount f.defense else 0

/-- A hit without an attacker behind it. An amount below one does nothing. -/
def wound (f : Fighter) (amount : Amount) (type : DamageType) : Fighter × Impact :=
  if amount ≤ 0 then
    (f, {})
  else
    let absorbed := f.soaked amount type
    let lifeLost := amount - absorbed
    ({ f with defense := f.defense - absorbed, life := Saturating.sub f.life lifeLost },
      { absorbed, lifeLost })

/-- The damage that spikes deal to whoever strikes the fighter, if it is any. -/
def thorns (f : Fighter) : Option Amount :=
  let sting := Saturating.add f.spike f.buffs.spike
  if 0 < f.spike ∧ 0 < sting then some sting else none

/-- A blow by an attacker, and the answer of the struck fighter's spikes. -/
def clash (f attacker : Fighter) (amount : Amount) (type : DamageType) : Clash :=
  let (struck, impact) := f.wound amount type
  match if 0 < amount ∧ type.provokes then f.thorns else none with
  | none => { struck, attacker, impact }
  | some sting =>
    { struck
      attacker := (attacker.wound sting .spike).1
      impact := { impact with reflected := some sting } }

/-! ## Gains -/

/-- A counter after a gain and its buff; it stops at zero. -/
def stacked (counter amount buff : Amount) : Amount :=
  max (Saturating.add (Saturating.add counter amount) buff) 0

/-- Restores life, with the healing buff, up to the ceiling, and takes the plain amount off the
poison. A negative amount does nothing. -/
def heal (f : Fighter) (amount : Amount) : Fighter :=
  if amount < 0 then
    f
  else
    { f with
      life := min (Saturating.add (Saturating.add f.life amount) f.buffs.healing) f.maxLife
      poison := max (f.poison - amount) 0 }

def gainDefense (f : Fighter) (amount : Amount) : Fighter :=
  if amount < 0 then f else { f with defense := stacked f.defense amount f.buffs.defense }

def gainBurn (f : Fighter) (amount : Amount) : Fighter :=
  if amount < 0 then f else { f with burn := stacked f.burn amount f.buffs.burn }

def gainPoison (f : Fighter) (amount : Amount) : Fighter :=
  if amount < 0 then f else { f with poison := stacked f.poison amount f.buffs.poison }

def gainSpike (f : Fighter) (amount : Amount) : Fighter :=
  if amount < 0 then f else { f with spike := stacked f.spike amount f.buffs.spike }

/-- Adds to a buff, which may take any sign. -/
def buff (f : Fighter) (s : Stat) (amount : Amount) : Fighter :=
  { f with buffs := f.buffs.modify s (Saturating.add · amount) }

/-! ## Clearing -/

/-- Takes away burn and poison. -/
def cleanse (f : Fighter) : Fighter :=
  { f with burn := 0, poison := 0 }

def dropDefense (f : Fighter) : Fighter :=
  { f with defense := 0 }

/-- Takes away all that a combat leaves behind but the life it cost. -/
def settle (f : Fighter) : Fighter :=
  { f with defense := 0, burn := 0, poison := 0, spike := 0, buffs := {} }

/-- Ready for a new combat. -/
def restore (f : Fighter) : Fighter :=
  { f with life := f.maxLife }.settle

/-! ## Status damage -/

/-- A round of status damage would hurt. -/
def afflicted (f : Fighter) : Bool := 0 < f.burn || 0 < f.poison

/-- Burn strikes for its count and burns down by one. -/
def sufferBurn (f : Fighter) : Fighter × Option Impact :=
  if f.burn ≤ 0 then
    (f, none)
  else
    let (g, impact) := f.wound f.burn .burn
    ({ g with burn := g.burn - 1 }, some impact)

/-- Poison strikes for its count and weakens by one. -/
def sufferPoison (f : Fighter) : Fighter × Option Impact :=
  if f.poison ≤ 0 then
    (f, none)
  else
    let (g, impact) := f.wound f.poison .poison
    ({ g with poison := g.poison - 1 }, some impact)

/-- A round of status damage: burn, then poison. -/
def decay (f : Fighter) : Fighter × Decay :=
  let (g, burn) := f.sufferBurn
  let (h, poison) := g.sufferPoison
  (h, { burn, poison })

end Fighter

end Skirmish
