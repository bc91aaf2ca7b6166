import Skirmish.Fighter
import Skirmish.Recipients

/-!
# Combats

One actor faces a pool of opponents; a source of randomness and two records go with them: the cues
for a presentation and the counts of cards to draw.

An action happens in two parts. `Action.reach` finds the places of the pool that it affects, which
may fail, and draws the place of a random strike; `Combat.carryOut` then changes the fighters and
writes the records, which cannot fail. So a fault is always found before anything has changed.
-/

namespace Skirmish

/-- What a presentation shows. -/
inductive Cue where
  /-- A strike with the card of a slot. -/
  | strike (slot : Option Slot)
  | defend
  | heal
  | burn
  | poison
  /-- Spikes gained, or spikes that answer a strike. -/
  | spikes
  | cleanse
  | buff (stat : Stat)
  | draw (count : UInt32)
  deriving DecidableEq, Repr

/-- What an action comes from: the slot of a card, if it is one, and the card's aim. -/
structure Origin where
  slot : Option Slot := none
  aim : Aim := .nobody
  deriving DecidableEq, Repr

structure Combat (σ : Type) where
  actor : Fighter
  pool : List Fighter
  source : σ
  /-- The cues so far, in order. -/
  cues : Array Cue := #[]
  /-- The counts of cards to draw so far, in order. -/
  draws : Array UInt32 := #[]

variable {σ : Type} [Chance σ]

/-- The places of the pool that the action affects, and the source after a random strike. -/
def Action.reach (a : Action) (origin : Origin) (target : Option Nat) (size : Nat) (source : σ) :
    Except Fault (List Nat × σ) :=
  match a with
  | attack a => a.targeting.recipients size target source
  | burn _ | poison _ => Targeting.declared.recipients size target source
  | defend _ =>
    if origin.aim = .opponent then
      Targeting.declared.recipients size target source
    else
      .ok ([], source)
  | _ => .ok ([], source)

namespace Combat

def cue (c : Combat σ) (q : Cue) : Combat σ :=
  { c with cues := c.cues.push q }

/-- Changes the actor. -/
def onActor (c : Combat σ) (f : Fighter → Fighter) : Combat σ :=
  { c with actor := f c.actor }

/-- Changes the opponents at some places. -/
def onPlaces (c : Combat σ) (places : List Nat) (f : Fighter → Fighter) : Combat σ :=
  { c with pool := places.foldl (fun pool i => pool.modify i f) c.pool }

/-- The actor strikes the opponent at one place. -/
def strike (damage : Amount) (c : Combat σ) (i : Nat) : Combat σ :=
  match c.pool[i]? with
  | none => c
  | some opponent =>
    let clash := opponent.clash c.actor damage .attack
    let c := { c with actor := clash.attacker, pool := c.pool.set i clash.struck }
    if clash.impact.reflected.isSome then c.cue .spikes else c

/-- One round of strikes. A strike of less than one, after the attack buff, is no strike. -/
def attack (c : Combat σ) (amount : Amount) (slot : Option Slot) (places : List Nat) : Combat σ :=
  let damage := Saturating.add amount c.actor.buffs.attack
  let c := c.cue (.strike slot)
  if damage < 1 then c else places.foldl (strike damage) c

/-- Carries out an action, or one round of a repeated attack, on the places that it reaches. -/
def carryOut (c : Combat σ) (a : Action) (origin : Origin) (places : List Nat) : Combat σ :=
  match a with
  | .attack a => c.attack a.amount origin.slot places
  | .defend n =>
    let gain := (Fighter.gainDefense · n)
    (if origin.aim = .opponent then c.onPlaces places gain else c.onActor gain).cue .defend
  | .heal n => (c.cue .heal).onActor (·.heal n)
  | .burn n => (c.onPlaces places (·.gainBurn n)).cue .burn
  | .poison n => (c.onPlaces places (·.gainPoison n)).cue .poison
  | .spike n => (c.cue .spikes).onActor (·.gainSpike n)
  | .draw n =>
    let c := c.cue (.draw n)
    { c with draws := c.draws.push n }
  | .cleanse => (c.cue .cleanse).onActor (·.cleanse)
  | .buff s n => (c.cue (.buff s)).onActor (·.buff s n)

/-! ## Status damage -/

/-- The cues of a round of status damage. -/
def announce (c : Combat σ) (d : Decay) : Combat σ :=
  let c := if d.burn.isSome then c.cue .burn else c
  if d.poison.isSome then c.cue .poison else c

end Combat

/-- A fighter's place in a combat. -/
inductive Seat where
  | actor
  | opponent (place : Nat)
  deriving DecidableEq, Repr

namespace Combat

def fighter? (c : Combat σ) : Seat → Option Fighter
  | .actor => some c.actor
  | .opponent i => c.pool[i]?

/-- Seats a fighter; outside the pool nothing happens. -/
def seat (c : Combat σ) (s : Seat) (f : Fighter) : Combat σ :=
  match s with
  | .actor => { c with actor := f }
  | .opponent i => { c with pool := c.pool.set i f }

/-- A round of status damage on one fighter. -/
def decay (c : Combat σ) (s : Seat) : Combat σ × Decay :=
  match c.fighter? s with
  | none => (c, {})
  | some f =>
    let (f, d) := f.decay
    ((c.seat s f).announce d, d)

end Combat

end Skirmish
