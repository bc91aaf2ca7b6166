import Skirmish.Saturating
import Skirmish.Stat

/-!
# Actions

What a card can do, one action at a time. An attack says whom it strikes and how often; every
other action is carried out once.
-/

namespace Skirmish

/-- Whom an attack strikes: every opponent, one drawn at random each time, or the declared one. -/
inductive Targeting where
  | everyone
  | random
  | declared
  deriving DecidableEq, Repr

namespace Targeting

def all : List Targeting := [everyone, random, declared]

def name : Targeting → String
  | everyone => "Aoe"
  | random => "Random"
  | declared => "Single"

end Targeting

structure Attack where
  amount : Amount
  area : Bool := false
  random : Bool := false
  times : UInt32 := 1
  deriving DecidableEq, Repr

/-- An attack on the whole area is never random. -/
def Attack.targeting (a : Attack) : Targeting :=
  if a.area then .everyone else if a.random then .random else .declared

inductive Action where
  | attack (a : Attack)
  | defend (amount : Amount)
  | heal (amount : Amount)
  | burn (amount : Amount)
  | poison (amount : Amount)
  | spike (amount : Amount)
  | draw (count : UInt32)
  | cleanse
  | buff (stat : Stat) (amount : Amount)
  deriving DecidableEq, Repr

namespace Action

def keyword : Action → String
  | attack _ => "Attack"
  | defend _ => "Defend"
  | heal _ => "Heal"
  | burn _ => "Burn"
  | poison _ => "Poison"
  | spike _ => "Spike"
  | draw _ => "Draw"
  | cleanse => "Cleanse"
  | buff _ _ => "Buff"

/-- How often the action says that it is carried out. -/
def times : Action → UInt32
  | attack a => a.times
  | _ => 1

/-- How many steps the action takes when none fails: even an attack of no times takes one. -/
def steps (a : Action) : Nat := max 1 a.times.toNat

theorem steps_pos (a : Action) : 0 < a.steps := by
  unfold steps
  omega

/-- The targeting of an attack. -/
def targeting? : Action → Option Targeting
  | attack a => some a.targeting
  | _ => none

end Action

end Skirmish
