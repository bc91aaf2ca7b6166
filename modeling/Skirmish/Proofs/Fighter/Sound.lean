import Skirmish.Fighter
import Skirmish.Proofs.Amount

/-!
# Sound fighters

A fighter is sound when no counter is negative and its life is at most its ceiling. A fresh fighter
is sound, and every operation on fighters keeps soundness, whatever the amount and whatever the
buffs. A hit on a fighter whose defense is not negative is read in exact integers:
`toInt_defense_wound` and `toInt_life_wound`.
-/

namespace Skirmish.Fighter

open Saturating

structure Sound (f : Fighter) : Prop where
  defense : 0 ≤ f.defense
  burn : 0 ≤ f.burn
  poison : 0 ≤ f.poison
  spike : 0 ≤ f.spike
  life : f.life ≤ f.maxLife

/-! ## Hits -/

theorem toInt_soaked (f : Fighter) (amount : Amount) (type : DamageType) :
    (f.soaked amount type).toInt =
      if type.blockable then min amount.toInt f.defense.toInt else 0 := by
  unfold soaked
  split
  · exact toInt_min _ _
  · rfl

theorem soaked_nonneg {f : Fighter} (hf : 0 ≤ f.defense) {amount : Amount} (ha : 0 < amount)
    (type : DamageType) : 0 ≤ f.soaked amount type := by
  rw [nonneg_iff] at hf ⊢
  rw [pos_iff] at ha
  rw [toInt_soaked]
  split <;> omega

theorem wound_of_nonpos (f : Fighter) {amount : Amount} (h : amount ≤ 0) (type : DamageType) :
    f.wound amount type = (f, {}) := if_pos h

theorem wound_of_pos (f : Fighter) {amount : Amount} (h : 0 < amount) (type : DamageType) :
    f.wound amount type =
      ({ f with
          defense := f.defense - f.soaked amount type
          life := Saturating.sub f.life (amount - f.soaked amount type) },
        { absorbed := f.soaked amount type, lifeLost := amount - f.soaked amount type }) :=
  if_neg fun hn => not_pos_iff.2 hn h

theorem toInt_defense_wound {f : Fighter} (hf : 0 ≤ f.defense) {amount : Amount} (ha : 0 < amount)
    (type : DamageType) :
    (f.wound amount type).1.defense.toInt =
      f.defense.toInt - if type.blockable then min amount.toInt f.defense.toInt else 0 := by
  rw [wound_of_pos f ha, ← toInt_soaked]
  exact toInt_sub_of_nonneg hf (soaked_nonneg hf ha type)

theorem toInt_life_wound {f : Fighter} (hf : 0 ≤ f.defense) {amount : Amount} (ha : 0 < amount)
    (type : DamageType) :
    (f.wound amount type).1.life.toInt =
      max (-2 ^ 63) (f.life.toInt -
        (amount.toInt - if type.blockable then min amount.toInt f.defense.toInt else 0)) := by
  have hs := soaked_nonneg hf ha type
  have hl := fits_toInt f.life
  rw [wound_of_pos f ha, toInt_sub, toInt_sub_of_nonneg (Int64.le_of_lt ha) hs, toInt_soaked]
  rw [pos_iff] at ha
  unfold Fits at hl
  unfold clamp
  split <;> omega

/-- A hit changes nothing but defense and life. -/
theorem wound_frame (f : Fighter) (amount : Amount) (type : DamageType) :
    (f.wound amount type).1 =
      { f with
        defense := (f.wound amount type).1.defense
        life := (f.wound amount type).1.life } := by
  unfold wound
  split <;> rfl

@[simp] theorem maxLife_wound (f : Fighter) (amount : Amount) (type : DamageType) :
    (f.wound amount type).1.maxLife = f.maxLife := by rw [wound_frame]

@[simp] theorem burn_wound (f : Fighter) (amount : Amount) (type : DamageType) :
    (f.wound amount type).1.burn = f.burn := by rw [wound_frame]

@[simp] theorem poison_wound (f : Fighter) (amount : Amount) (type : DamageType) :
    (f.wound amount type).1.poison = f.poison := by rw [wound_frame]

@[simp] theorem spike_wound (f : Fighter) (amount : Amount) (type : DamageType) :
    (f.wound amount type).1.spike = f.spike := by rw [wound_frame]

@[simp] theorem buffs_wound (f : Fighter) (amount : Amount) (type : DamageType) :
    (f.wound amount type).1.buffs = f.buffs := by rw [wound_frame]

theorem Sound.wound {f : Fighter} (h : f.Sound) (amount : Amount) (type : DamageType) :
    (f.wound amount type).1.Sound := by
  by_cases ha : 0 < amount
  · have hd := toInt_defense_wound h.defense ha type
    have hl := toInt_life_wound h.defense ha type
    have hmax := fits_toInt f.maxLife
    have h1 := nonneg_iff.1 h.defense
    have h5 := Int64.le_iff_toInt_le.1 h.life
    rw [pos_iff] at ha
    rw [wound_frame]
    refine ⟨nonneg_iff.2 ?_, h.burn, h.poison, h.spike, Int64.le_iff_toInt_le.2 ?_⟩
    · rw [hd]
      split <;> omega
    · show (f.wound amount type).1.life.toInt ≤ f.maxLife.toInt
      unfold Fits at hmax
      rw [hl]
      split <;> omega
  · rw [wound_of_nonpos f (not_pos_iff.1 ha)]
    exact h

/-! ### Blows -/

theorem struck_clash (f attacker : Fighter) (amount : Amount) (type : DamageType) :
    (f.clash attacker amount type).struck = (f.wound amount type).1 := by
  unfold clash
  dsimp only
  split <;> rfl

/-- All that a blow may do to the attacker is an answer of spikes. -/
theorem attacker_clash (f attacker : Fighter) (amount : Amount) (type : DamageType) :
    (f.clash attacker amount type).attacker = attacker ∨
      ∃ sting, (f.clash attacker amount type).attacker = (attacker.wound sting .spike).1 := by
  unfold clash
  dsimp only
  split
  · exact .inl rfl
  · exact .inr ⟨_, rfl⟩

theorem Sound.clash {f attacker : Fighter} (hf : f.Sound) (ha : attacker.Sound) (amount : Amount)
    (type : DamageType) :
    (f.clash attacker amount type).struck.Sound ∧
      (f.clash attacker amount type).attacker.Sound := by
  rw [struck_clash]
  refine ⟨hf.wound amount type, ?_⟩
  rcases f.attacker_clash attacker amount type with heq | ⟨sting, heq⟩
  · rw [heq]
    exact ha
  · rw [heq]
    exact ha.wound sting .spike

/-! ## Gains -/

theorem stacked_nonneg (counter amount buff : Amount) : 0 ≤ stacked counter amount buff :=
  max_zero_nonneg _

theorem Sound.heal {f : Fighter} (h : f.Sound) (amount : Amount) : (f.heal amount).Sound := by
  unfold Fighter.heal
  split
  · exact h
  · exact ⟨h.defense, h.burn, max_zero_nonneg _, h.spike, min_le_right _ _⟩

theorem Sound.gainDefense {f : Fighter} (h : f.Sound) (amount : Amount) :
    (f.gainDefense amount).Sound := by
  unfold Fighter.gainDefense
  split
  · exact h
  · exact { h with defense := stacked_nonneg _ _ _ }

theorem Sound.gainBurn {f : Fighter} (h : f.Sound) (amount : Amount) :
    (f.gainBurn amount).Sound := by
  unfold Fighter.gainBurn
  split
  · exact h
  · exact { h with burn := stacked_nonneg _ _ _ }

theorem Sound.gainPoison {f : Fighter} (h : f.Sound) (amount : Amount) :
    (f.gainPoison amount).Sound := by
  unfold Fighter.gainPoison
  split
  · exact h
  · exact { h with poison := stacked_nonneg _ _ _ }

theorem Sound.gainSpike {f : Fighter} (h : f.Sound) (amount : Amount) :
    (f.gainSpike amount).Sound := by
  unfold Fighter.gainSpike
  split
  · exact h
  · exact { h with spike := stacked_nonneg _ _ _ }

theorem Sound.buff {f : Fighter} (h : f.Sound) (s : Stat) (amount : Amount) :
    (f.buff s amount).Sound := { h with }

/-! ### Defense under gains -/

theorem defense_gainDefense_nonneg {f : Fighter} (h : 0 ≤ f.defense) (amount : Amount) :
    0 ≤ (f.gainDefense amount).defense := by
  unfold gainDefense
  split
  · exact h
  · exact stacked_nonneg _ _ _

@[simp] theorem defense_heal (f : Fighter) (amount : Amount) :
    (f.heal amount).defense = f.defense := by
  unfold heal
  split <;> rfl

@[simp] theorem defense_gainBurn (f : Fighter) (amount : Amount) :
    (f.gainBurn amount).defense = f.defense := by
  unfold gainBurn
  split <;> rfl

@[simp] theorem defense_gainPoison (f : Fighter) (amount : Amount) :
    (f.gainPoison amount).defense = f.defense := by
  unfold gainPoison
  split <;> rfl

@[simp] theorem defense_gainSpike (f : Fighter) (amount : Amount) :
    (f.gainSpike amount).defense = f.defense := by
  unfold gainSpike
  split <;> rfl

/-! ## Beginnings and ends -/

theorem sound_fresh (maxLife : Amount) : (fresh maxLife).Sound :=
  ⟨Int64.le_refl _, Int64.le_refl _, Int64.le_refl _, Int64.le_refl _, Int64.le_refl _⟩

theorem Sound.atLife {f : Fighter} (h : f.Sound) (life : Amount) : (f.atLife life).Sound :=
  { h with life := min_le_right _ _ }

theorem Sound.cleanse {f : Fighter} (h : f.Sound) : f.cleanse.Sound :=
  { h with burn := Int64.le_refl _, poison := Int64.le_refl _ }

theorem Sound.dropDefense {f : Fighter} (h : f.Sound) : f.dropDefense.Sound :=
  { h with defense := Int64.le_refl _ }

theorem sound_settle {f : Fighter} (h : f.life ≤ f.maxLife) : f.settle.Sound :=
  ⟨Int64.le_refl _, Int64.le_refl _, Int64.le_refl _, Int64.le_refl _, h⟩

theorem sound_restore (f : Fighter) : f.restore.Sound :=
  sound_settle (Int64.le_refl _)

/-! ## Status damage -/

theorem Sound.sufferBurn {f : Fighter} (h : f.Sound) : f.sufferBurn.1.Sound := by
  unfold Fighter.sufferBurn
  split
  · exact h
  · rename_i hb
    have hw := h.wound f.burn .burn
    refine { hw with burn := ?_ }
    show 0 ≤ (f.wound f.burn .burn).1.burn - 1
    rw [burn_wound]
    exact sub_one_nonneg hb

theorem Sound.sufferPoison {f : Fighter} (h : f.Sound) : f.sufferPoison.1.Sound := by
  unfold Fighter.sufferPoison
  split
  · exact h
  · rename_i hp
    have hw := h.wound f.poison .poison
    refine { hw with poison := ?_ }
    show 0 ≤ (f.wound f.poison .poison).1.poison - 1
    rw [poison_wound]
    exact sub_one_nonneg hp

theorem Sound.decay {f : Fighter} (h : f.Sound) : f.decay.1.Sound :=
  h.sufferBurn.sufferPoison

end Skirmish.Fighter
