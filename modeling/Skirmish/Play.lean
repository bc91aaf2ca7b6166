import Skirmish.Catalog
import Skirmish.Sequence

/-!
# Plays

Carrying out a bare list of actions, a description, or all that a card says, in one go. A
description that cannot be read is not carried out at all; a card leaves out what could not be
read of its own.
-/

namespace Skirmish

namespace Sequence

/-- A bare list of actions. -/
def ofActions (actions : List Action) : Sequence where
  pending := actions

/-- What a card says. -/
def ofCard (card : Card) : Sequence where
  origin := { slot := some card.slot, aim := card.aim }
  pending := card.actions

end Sequence

namespace Combat

variable {σ : Type} [Chance σ]

/-- Runs a sequence to its end or first fault; its report counts the steps. -/
def follow (c : Combat σ) (s : Sequence) (target : Option Nat) : Except Fault Nat × Combat σ :=
  let after := s.run target {} c
  (after.report, after.combat)

/-- Carries out a bare list of actions. -/
def perform (c : Combat σ) (actions : List Action) (target : Option Nat) :
    Except Fault Nat × Combat σ :=
  c.follow (.ofActions actions) target

/-- Carries out a description, read strictly. -/
def performText (c : Combat σ) (text : String) (target : Option Nat) :
    Except Fault Nat × Combat σ :=
  match Description.parse text with
  | .ok actions => c.perform actions target
  | .error fault => (.error fault, c)

/-- Carries out what a card says, from its slot and with its aim. -/
def play (c : Combat σ) (card : Card) (target : Option Nat) : Except Fault Nat × Combat σ :=
  c.follow (.ofCard card) target

end Combat

end Skirmish
