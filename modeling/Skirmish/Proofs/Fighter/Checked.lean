import Skirmish.Proofs.Fighter.Sound

/-!
# Checked fighters

Five operations on fighters take plain differences of amounts: a hit, a blow, a heal, and the ticks
of burn and poison. Each has a checked form here, which gives up (`none`) at the first difference
that is no amount. On sound fighters none of them gives up, and each has the result of the plain
operation.
-/

namespace Skirmish.Fighter

open Saturating

def wound? (f : Fighter) (amount : Amount) (type : DamageType) : Option (Fighter × Impact) :=
  if amount ≤ 0 then
    some (f, {})
  else do
    let absorbed := f.soaked amount type
    let defense ← sub? f.defense absorbed
    let lifeLost ← sub? amount absorbed
    some ({ f with defense, life := Saturating.sub f.life lifeLost }, { absorbed, lifeLost })

def clash? (f attacker : Fighter) (amount : Amount) (type : DamageType) : Option Clash := do
  let (struck, impact) ← f.wound? amount type
  match if 0 < amount ∧ type.provokes then f.thorns else none with
  | none => some { struck, attacker, impact }
  | some sting =>
    let (attacker, _) ← attacker.wound? sting .spike
    some { struck, attacker, impact := { impact with reflected := some sting } }

def heal? (f : Fighter) (amount : Amount) : Option Fighter :=
  if amount < 0 then
    some f
  else do
    let poison ← sub? f.poison amount
    some
      { f with
        life := min (Saturating.add (Saturating.add f.life amount) f.buffs.healing) f.maxLife
        poison := max poison 0 }

def sufferBurn? (f : Fighter) : Option (Fighter × Option Impact) :=
  if f.burn ≤ 0 then
    some (f, none)
  else do
    let (g, impact) ← f.wound? f.burn .burn
    let burn ← sub? g.burn 1
    some ({ g with burn }, some impact)

def sufferPoison? (f : Fighter) : Option (Fighter × Option Impact) :=
  if f.poison ≤ 0 then
    some (f, none)
  else do
    let (g, impact) ← f.wound? f.poison .poison
    let poison ← sub? g.poison 1
    some ({ g with poison }, some impact)

def decay? (f : Fighter) : Option (Fighter × Decay) := do
  let (g, burn) ← f.sufferBurn?
  let (h, poison) ← g.sufferPoison?
  some (h, { burn, poison })

theorem Sound.wound? {f : Fighter} (h : f.Sound) (amount : Amount) (type : DamageType) :
    f.wound? amount type = some (f.wound amount type) := by
  by_cases ha : 0 < amount
  · have hs := soaked_nonneg h.defense ha type
    unfold Fighter.wound?
    rw [if_neg (fun hn => not_pos_iff.2 hn ha), wound_of_pos f ha]
    simp only [sub?_of_nonneg h.defense hs, sub?_of_nonneg (Int64.le_of_lt ha) hs]
    rfl
  · rw [not_pos_iff] at ha
    rw [wound_of_nonpos f ha]
    exact if_pos ha

theorem Sound.clash? {f attacker : Fighter} (hf : f.Sound) (ha : attacker.Sound) (amount : Amount)
    (type : DamageType) : f.clash? attacker amount type = some (f.clash attacker amount type) := by
  unfold Fighter.clash? Fighter.clash
  rw [hf.wound? amount type]
  simp only [Option.bind_eq_bind, Option.bind_some]
  generalize (if 0 < amount ∧ type.provokes then f.thorns else none) = answer
  cases answer with
  | none => rfl
  | some sting => simp only [ha.wound? sting .spike, Option.bind_some]

theorem Sound.heal? {f : Fighter} (h : f.Sound) (amount : Amount) :
    f.heal? amount = some (f.heal amount) := by
  unfold Fighter.heal? Fighter.heal
  split
  · rfl
  · rename_i ha
    rw [sub?_of_nonneg h.poison (not_neg_iff.1 ha)]
    rfl

theorem Sound.sufferBurn? {f : Fighter} (h : f.Sound) : f.sufferBurn? = some f.sufferBurn := by
  unfold Fighter.sufferBurn? Fighter.sufferBurn
  split
  · rfl
  · have hb := (h.wound f.burn .burn).burn
    rw [h.wound? f.burn .burn]
    simp only [Option.bind_eq_bind, Option.bind_some, sub?_of_nonneg hb (show 0 ≤ 1 by decide)]

theorem Sound.sufferPoison? {f : Fighter} (h : f.Sound) :
    f.sufferPoison? = some f.sufferPoison := by
  unfold Fighter.sufferPoison? Fighter.sufferPoison
  split
  · rfl
  · have hp := (h.wound f.poison .poison).poison
    rw [h.wound? f.poison .poison]
    simp only [Option.bind_eq_bind, Option.bind_some, sub?_of_nonneg hp (show 0 ≤ 1 by decide)]

theorem Sound.decay? {f : Fighter} (h : f.Sound) : f.decay? = some f.decay := by
  unfold Fighter.decay? Fighter.decay
  rw [h.sufferBurn?]
  simp only [Option.bind_eq_bind, Option.bind_some, h.sufferBurn.sufferPoison?]

end Skirmish.Fighter
