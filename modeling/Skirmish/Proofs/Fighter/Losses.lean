import Skirmish.Proofs.Fighter.Sound

/-!
# Losses

`f.Bears total g` says in exact integers that hits of `total` in all, soaked up by defense first,
make `g` of `f`. Hits add up (`Bears.trans`): life that has reached its least value stays there, so
a chain of saturating differences is one difference, clamped once.

`sting` is what a fighter's spikes send back for every blow.
-/

namespace Skirmish.Fighter

open Saturating

structure Bears (total : Int) (f g : Fighter) : Prop where
  frame : g = { f with defense := g.defense, life := g.life }
  defense : g.defense.toInt = max 0 (f.defense.toInt - total)
  life : g.life.toInt = max (-2 ^ 63) (f.life.toInt - max 0 (total - f.defense.toInt))

namespace Bears

theorem buffs {total : Int} {f g : Fighter} (h : f.Bears total g) : g.buffs = f.buffs := by
  rw [h.frame]

theorem spike {total : Int} {f g : Fighter} (h : f.Bears total g) : g.spike = f.spike := by
  rw [h.frame]

theorem defense_nonneg {total : Int} {f g : Fighter} (h : f.Bears total g) : 0 ≤ g.defense := by
  rw [nonneg_iff, h.defense]
  exact Int.le_max_left _ _

theorem zero {f : Fighter} (h : 0 ≤ f.defense) : f.Bears 0 f := by
  have hd := nonneg_iff.1 h
  have hl := (fits_toInt f.life).1
  refine ⟨rfl, ?_, ?_⟩ <;> omega

/-- Later hits fall on what earlier ones have left. -/
theorem trans {m n : Int} (hn : 0 ≤ n) {f g h : Fighter} (hf : 0 ≤ f.defense)
    (hfg : f.Bears m g) (hgh : g.Bears n h) : f.Bears (m + n) h := by
  have hd := nonneg_iff.1 hf
  have hgd := hfg.defense
  have hgl := hfg.life
  refine ⟨?_, ?_, ?_⟩
  · rw [hgh.frame, hfg.frame]
  · rw [hgh.defense]
    omega
  · rw [hgh.life]
    omega

/-- Losses decide what a fighter becomes. -/
theorem unique {total : Int} {f g g' : Fighter} (h : f.Bears total g)
    (h' : f.Bears total g') : g = g' := by
  have hdefense : g.defense = g'.defense := Int64.toInt_inj.1 (h.defense.trans h'.defense.symm)
  have hlife : g.life = g'.life := Int64.toInt_inj.1 (h.life.trans h'.life.symm)
  calc g = { f with defense := g.defense, life := g.life } := h.frame
    _ = { f with defense := g'.defense, life := g'.life } := by rw [hdefense, hlife]
    _ = g' := h'.frame.symm

theorem unique_of_rel {total : Int} {x y z : Option Fighter}
    (h : Option.Rel (Bears total) x y) (h' : Option.Rel (Bears total) x z) :
    y = z := by
  cases h with
  | none =>
    cases h'
    rfl
  | some hb =>
    cases h' with
    | some hb' => exact congrArg some (hb.unique hb')

end Bears

/-- A hit of any type that defense can soak up. -/
theorem bears_wound {f : Fighter} (hf : 0 ≤ f.defense) {amount : Amount} (ha : 0 < amount)
    {type : DamageType} (ht : type.blockable) : f.Bears amount.toInt (f.wound amount type).1 := by
  have hd := toInt_defense_wound hf ha type
  have hl := toInt_life_wound hf ha type
  rw [if_pos ht] at hd hl
  refine ⟨wound_frame f amount type, ?_, ?_⟩ <;> omega

/-! ## Spikes -/

/-- The damage that spikes send back for one blow: spikes and their buff, where both the spikes and
the sum are positive. -/
def sting (f : Fighter) : Int :=
  let sum := clamp (f.spike.toInt + f.buffs.spike.toInt)
  if 0 < f.spike.toInt ∧ 0 < sum then sum else 0

theorem sting_nonneg (f : Fighter) : 0 ≤ f.sting := by
  unfold sting
  simp only
  split
  · rename_i h
    exact Int.le_of_lt h.2
  · exact Int.le_refl 0

theorem sting_congr {f g : Fighter} (hs : g.spike = f.spike) (hb : g.buffs = f.buffs) :
    g.sting = f.sting := by
  unfold sting
  rw [hs, hb]

theorem sting_gainDefense (f : Fighter) (amount : Amount) :
    (f.gainDefense amount).sting = f.sting := by
  unfold gainDefense
  split <;> rfl

theorem sting_gainBurn (f : Fighter) (amount : Amount) : (f.gainBurn amount).sting = f.sting := by
  unfold gainBurn
  split <;> rfl

theorem sting_gainPoison (f : Fighter) (amount : Amount) :
    (f.gainPoison amount).sting = f.sting := by
  unfold gainPoison
  split <;> rfl

theorem sting_of_thorns_none {f : Fighter} (h : f.thorns = none) : f.sting = 0 := by
  unfold thorns at h
  simp only [pos_iff, toInt_add] at h
  unfold sting
  split at h
  · cases h
  · rename_i hn
    exact if_neg hn

theorem sting_of_thorns_some {f : Fighter} {sting : Amount} (h : f.thorns = some sting) :
    0 < sting ∧ f.sting = sting.toInt := by
  unfold thorns at h
  simp only at h
  split at h
  · rename_i hp
    obtain rfl := Option.some.inj h
    refine ⟨hp.2, ?_⟩
    rw [pos_iff, pos_iff, toInt_add] at hp
    rw [toInt_add]
    exact if_pos hp
  · cases h

/-- Both sides of an attack's blow. -/
theorem bears_clash {f attacker : Fighter} (hf : 0 ≤ f.defense) (ha : 0 ≤ attacker.defense)
    {amount : Amount} (hpos : 0 < amount) :
    f.Bears amount.toInt (f.clash attacker amount .attack).struck ∧
      attacker.Bears f.sting (f.clash attacker amount .attack).attacker := by
  unfold clash
  have hw : f.Bears amount.toInt (f.wound amount .attack).1 := bears_wound hf hpos rfl
  simp only [hpos, DamageType.provokes, and_self, if_true]
  cases ht : f.thorns with
  | none =>
    rw [sting_of_thorns_none ht]
    exact ⟨hw, .zero ha⟩
  | some sting =>
    obtain ⟨hs, he⟩ := sting_of_thorns_some ht
    rw [he]
    exact ⟨hw, bears_wound ha hs rfl⟩

end Skirmish.Fighter
