import Skirmish.Proofs.Fighter.Sound

/-!
# Gains

The four counters gain alike (`gain_eq`): the amount is added, then the buff of the counter's stat,
and the sum stops at zero. Life gains in the same way and stops at its ceiling.

Both sums saturate, one after the other. That is one clamp of the exact sum (`gained_add_add`),
unless the first sum goes past the top of the range and a negative buff then counts down from the
top (`Overshoots`). Even there the gain is not too high, and too low by the buff at most.
-/

namespace Skirmish

/-- A counter that may gain. -/
inductive Counter where
  | defense
  | burn
  | poison
  | spike
  deriving DecidableEq, Repr

/-- The stat whose buff a gain takes along. -/
def Counter.stat : Counter → Stat
  | defense => .defense
  | burn => .burn
  | poison => .poison
  | spike => .spike

namespace Fighter

open Saturating

def count (f : Fighter) : Counter → Amount
  | .defense => f.defense
  | .burn => f.burn
  | .poison => f.poison
  | .spike => f.spike

/-- The fighter with another count, and all else as it was. -/
def recount (f : Fighter) (n : Amount) : Counter → Fighter
  | .defense => { f with defense := n }
  | .burn => { f with burn := n }
  | .poison => { f with poison := n }
  | .spike => { f with spike := n }

def gain (f : Fighter) (amount : Amount) : Counter → Fighter
  | .defense => f.gainDefense amount
  | .burn => f.gainBurn amount
  | .poison => f.gainPoison amount
  | .spike => f.gainSpike amount

theorem gain_eq (f : Fighter) (amount : Amount) (c : Counter) :
    f.gain amount c =
      if amount < 0 then f
      else f.recount (stacked (f.count c) amount (f.buffs.get c.stat)) c := by
  cases c <;> rfl

/-! ## Two sums -/

/-- The sum of value and amount is past the top of the range, and the buff is negative. -/
def Overshoots (value amount buff : Int) : Prop := 2 ^ 63 - 1 < value + amount ∧ buff < 0

/-- `after` is what a value gains by an amount and a buff between two bounds: the exact sum, kept
between the bounds, or what the buff leaves of the top of the range if the gain overshoots. Either
way it is the exact value or less, and the buff accounts for the difference. -/
structure Gained (lo hi value amount buff after : Int) : Prop where
  exact : ¬Overshoots value amount buff → after = max lo (min hi (value + amount + buff))
  overshot : Overshoots value amount buff → after = max lo (min hi (2 ^ 63 - 1 + buff))
  le : after ≤ max lo (min hi (value + amount + buff))
  near : max lo (min hi (value + amount + buff)) - after ≤ |buff|

theorem toInt_add_add {value amount buff : Amount} (ha : 0 ≤ amount)
    (h : ¬Overshoots value.toInt amount.toInt buff.toInt) :
    (add (add value amount) buff).toInt = clamp (value.toInt + amount.toInt + buff.toInt) := by
  have hvalue := fits_toInt value
  rw [nonneg_iff] at ha
  rw [toInt_add, toInt_add]
  unfold Fits at hvalue
  unfold Overshoots at h
  unfold clamp
  omega

theorem toInt_add_add_of_overshoots {value amount buff : Amount}
    (h : Overshoots value.toInt amount.toInt buff.toInt) :
    (add (add value amount) buff).toInt = 2 ^ 63 - 1 + buff.toInt := by
  have hbuff := fits_toInt buff
  obtain ⟨htop, hneg⟩ := h
  rw [toInt_add, toInt_add]
  unfold Fits at hbuff
  unfold clamp
  omega

/-- Both sums, kept between bounds of the range. -/
theorem gained_add_add {lo hi : Int} (hlo : -2 ^ 63 ≤ lo) (hhi : hi ≤ 2 ^ 63 - 1)
    {value amount buff : Amount} (ha : 0 ≤ amount) :
    Gained lo hi value.toInt amount.toInt buff.toInt
      (max lo (min hi (add (add value amount) buff).toInt)) := by
  by_cases h : Overshoots value.toInt amount.toInt buff.toInt
  · rw [toInt_add_add_of_overshoots h]
    have ⟨htop, hneg⟩ := h
    have habs : |buff.toInt| = -buff.toInt := abs_of_neg hneg
    refine ⟨fun hnot => absurd h hnot, fun _ => rfl, ?_, ?_⟩ <;> omega
  · rw [toInt_add_add ha h]
    have hclamp : max lo (min hi (clamp (value.toInt + amount.toInt + buff.toInt))) =
        max lo (min hi (value.toInt + amount.toInt + buff.toInt)) := by
      unfold clamp
      omega
    have habs := abs_nonneg buff.toInt
    rw [hclamp]
    refine ⟨fun _ => rfl, fun hovershoots => absurd hovershoots h, ?_, ?_⟩ <;> omega

theorem gained_stacked {counter amount buff : Amount} (ha : 0 ≤ amount) :
    Gained 0 (2 ^ 63 - 1) counter.toInt amount.toInt buff.toInt
      (stacked counter amount buff).toInt := by
  have hsum := (fits_toInt (add (add counter amount) buff)).2
  have hstacked : (stacked counter amount buff).toInt =
      max 0 (min (2 ^ 63 - 1) (add (add counter amount) buff).toInt) := by
    unfold stacked
    rw [toInt_max, Int64.toInt_zero]
    omega
  rw [hstacked]
  exact gained_add_add (by decide) (Int.le_refl _) ha

theorem gained_capped {life amount buff ceiling : Amount} (ha : 0 ≤ amount) :
    Gained (-2 ^ 63) ceiling.toInt life.toInt amount.toInt buff.toInt
      (min (add (add life amount) buff) ceiling).toInt := by
  have hsum := (fits_toInt (add (add life amount) buff)).1
  have hceiling := fits_toInt ceiling
  have hcapped : (min (add (add life amount) buff) ceiling).toInt =
      max (-2 ^ 63) (min ceiling.toInt (add (add life amount) buff).toInt) := by
    rw [toInt_min]
    have hlo := hceiling.1
    omega
  rw [hcapped]
  exact gained_add_add (Int.le_refl _) hceiling.2 ha

/-! ## Gains of a fighter -/

variable {f : Fighter} {amount : Amount}

theorem heal_of_nonneg (ha : 0 ≤ amount) :
    f.heal amount =
      { f with
        life := min (add (add f.life amount) f.buffs.healing) f.maxLife
        poison := max (f.poison - amount) 0 } :=
  if_neg (not_neg_iff.2 ha)

/-- A plain amount of healing cures as much poison, down to none. -/
theorem toInt_poison_heal (hpoison : 0 ≤ f.poison) (ha : 0 ≤ amount) :
    (max (f.poison - amount) 0).toInt = max 0 (f.poison.toInt - amount.toInt) := by
  rw [toInt_max, toInt_sub_of_nonneg hpoison ha, Int64.toInt_zero, Int.max_comm]

/-- Gains and healing in exact integers. A negative amount changes nothing. Any other raises one
counter, or life up to its ceiling, by itself and the buff of the stat; healing also takes the
plain amount off the poison. Nothing else changes. -/
theorem gains_in_exact_integers (hpoison : 0 ≤ f.poison) (amount : Amount) :
    (amount < 0 → f.heal amount = f ∧ ∀ c, f.gain amount c = f) ∧
      (0 ≤ amount →
        (∀ c, ∃ n, f.gain amount c = f.recount n c ∧
          Gained 0 (2 ^ 63 - 1) (f.count c).toInt amount.toInt (f.buffs.get c.stat).toInt
            n.toInt) ∧
        ∃ life poison, f.heal amount = { f with life, poison } ∧
          Gained (-2 ^ 63) f.maxLife.toInt f.life.toInt amount.toInt f.buffs.healing.toInt
            life.toInt ∧
          poison.toInt = max 0 (f.poison.toInt - amount.toInt)) := by
  refine ⟨fun hneg => ⟨if_pos hneg, fun c => ?_⟩, fun ha => ⟨fun c => ?_, ?_⟩⟩
  · rw [gain_eq, if_pos hneg]
  · rw [gain_eq, if_neg (not_neg_iff.2 ha)]
    exact ⟨_, rfl, gained_stacked ha⟩
  · exact ⟨_, _, heal_of_nonneg ha, gained_capped ha, toInt_poison_heal hpoison ha⟩

/-- Defense and life overshoot against a negative buff; burn ends below zero and stops there. -/
theorem gains_in_exact_integers_dulled :
    let f : Fighter := { maxLife := Int64.maxValue, life := Int64.maxValue - 2,
                         defense := Int64.maxValue - 1, burn := 3, poison := 7,
                         buffs := { defense := -5, healing := -4, burn := -9 } }
    0 ≤ f.poison ∧ (0 : Amount) ≤ 5 ∧
      (∃ n, f.gain 5 .defense = f.recount n .defense ∧ n.toInt = 2 ^ 63 - 6) ∧
      (∃ n, f.gain 5 .burn = f.recount n .burn ∧ n.toInt = 0) ∧
      ∃ life poison, f.heal 5 = { f with life, poison } ∧ life.toInt = 2 ^ 63 - 5 ∧
        poison.toInt = 2 := by
  intro f
  have hpoison : 0 ≤ f.poison := by decide
  have ha : (0 : Amount) ≤ 5 := by decide
  obtain ⟨hgains, life, poison, hheal, hlife, hcure⟩ := (gains_in_exact_integers hpoison 5).2 ha
  obtain ⟨defense, hdefense, hguard⟩ := hgains .defense
  obtain ⟨burn, hburn, hheat⟩ := hgains .burn
  refine ⟨hpoison, ha, ⟨defense, hdefense, ?_⟩, ⟨burn, hburn, ?_⟩, life, poison, hheal, ?_, hcure⟩
  · exact hguard.overshot ⟨by decide, by decide⟩
  · exact hheat.exact fun h => absurd h.1 (by decide)
  · exact hlife.overshot ⟨by decide, by decide⟩

end Fighter

end Skirmish
