import Skirmish.Proofs.Fighter.Losses

/-!
# Exact fighters

The rules of fighters over all integers: counters still stop at zero and healed life at its
ceiling, but no sum or difference stops at the end of a range.

`f.Within n k` bounds a fighter whose stats were moderate `n` steps and `k` hits ago. Every step
moves a buff by at most what a clause can say, and a counter by that and a buff; every hit costs at
most `hitSize` life. With `n` at most `2 ^ 16` and `k` at most `2 ^ 26` (so many steps with `2 ^ 10`
hits each) no stat comes near the ends of the range, and every operation does what the exact one
does.
-/

namespace Skirmish

namespace Exact

structure Fighter where
  maxLife : Int
  life : Int
  defense : Int
  burn : Int
  poison : Int
  spike : Int
  buffs : Stat → Int

namespace Fighter

def wound (f : Fighter) (amount : Int) (type : DamageType) : Fighter :=
  if amount ≤ 0 then
    f
  else
    let absorbed := if type.blockable then min amount f.defense else 0
    { f with defense := f.defense - absorbed, life := f.life - (amount - absorbed) }

def thorns (f : Fighter) : Option Int :=
  let sting := f.spike + f.buffs .spike
  if 0 < f.spike ∧ 0 < sting then some sting else none

/-- Both fighters after a blow, and what spikes sent back. -/
def clash (f attacker : Fighter) (amount : Int) (type : DamageType) :
    Fighter × Fighter × Option Int :=
  match if 0 < amount ∧ type.provokes then f.thorns else none with
  | none => (f.wound amount type, attacker, none)
  | some sting => (f.wound amount type, attacker.wound sting .spike, some sting)

def stacked (counter amount buff : Int) : Int := max (counter + amount + buff) 0

def heal (f : Fighter) (amount : Int) : Fighter :=
  if amount < 0 then
    f
  else
    { f with
      life := min (f.life + amount + f.buffs .healing) f.maxLife
      poison := max (f.poison - amount) 0 }

def gainDefense (f : Fighter) (amount : Int) : Fighter :=
  if amount < 0 then f else { f with defense := stacked f.defense amount (f.buffs .defense) }

def gainBurn (f : Fighter) (amount : Int) : Fighter :=
  if amount < 0 then f else { f with burn := stacked f.burn amount (f.buffs .burn) }

def gainPoison (f : Fighter) (amount : Int) : Fighter :=
  if amount < 0 then f else { f with poison := stacked f.poison amount (f.buffs .poison) }

def gainSpike (f : Fighter) (amount : Int) : Fighter :=
  if amount < 0 then f else { f with spike := stacked f.spike amount (f.buffs .spike) }

def buff (f : Fighter) (s : Stat) (amount : Int) : Fighter :=
  { f with buffs := Function.update f.buffs s (f.buffs s + amount) }

def cleanse (f : Fighter) : Fighter :=
  { f with burn := 0, poison := 0 }

end Fighter

end Exact

namespace Fighter

open Saturating

/-- The fighter's stats as integers. -/
def exact (f : Fighter) : Exact.Fighter where
  maxLife := f.maxLife.toInt
  life := f.life.toInt
  defense := f.defense.toInt
  burn := f.burn.toInt
  poison := f.poison.toInt
  spike := f.spike.toInt
  buffs s := (f.buffs.get s).toInt

/-! ## Bounds -/

/-- The most that a hit costs while all else is in bounds. -/
def hitSize : Int := 2 ^ 33

/-- A counter after `n` steps. -/
def Counts (n : Nat) (a : Amount) : Prop := 0 ≤ a.toInt ∧ a.toInt ≤ 2 ^ 31 + n * 2 ^ 33

/-- A buff after `n` steps. -/
def Swings (n : Nat) (a : Amount) : Prop :=
  -(2 ^ 31 + n * 2 ^ 15) ≤ a.toInt ∧ a.toInt ≤ 2 ^ 31 + n * 2 ^ 15

structure Within (n k : Nat) (f : Fighter) : Prop where
  maxLife : f.maxLife.toInt ≤ 2 ^ 31
  life_le : f.life.toInt ≤ f.maxLife.toInt
  le_life : -(2 ^ 31 + k * hitSize) ≤ f.life.toInt
  defense : Counts n f.defense
  burn : Counts n f.burn
  poison : Counts n f.poison
  spike : Counts n f.spike
  buffs (s : Stat) : Swings n (f.buffs.get s)

theorem Counts.mono {n n' : Nat} (hn : n ≤ n') {a : Amount} (h : Counts n a) : Counts n' a := by
  unfold Counts at *
  omega

theorem Swings.mono {n n' : Nat} (hn : n ≤ n') {a : Amount} (h : Swings n a) : Swings n' a := by
  unfold Swings at *
  omega

theorem Within.mono {n n' k k' : Nat} (hn : n ≤ n') (hk : k ≤ k') {f : Fighter}
    (h : f.Within n k) : f.Within n' k' where
  maxLife := h.maxLife
  life_le := h.life_le
  le_life := by
    have := h.le_life
    unfold hitSize at *
    omega
  defense := h.defense.mono hn
  burn := h.burn.mono hn
  poison := h.poison.mono hn
  spike := h.spike.mono hn
  buffs s := (h.buffs s).mono hn

theorem counts_zero (n : Nat) : Counts n 0 := by
  unfold Counts
  rw [Int64.toInt_zero]
  omega

/-- A gain of what a clause can say. -/
theorem Counts.stacked {n : Nat} (hn : n < 2 ^ 16) {counter amount buff : Amount}
    (hc : Counts n counter) (ha : 0 ≤ amount.toInt ∧ amount.toInt ≤ 65535)
    (hb : Swings n buff) :
    (stacked counter amount buff).toInt =
        Exact.Fighter.stacked counter.toInt amount.toInt buff.toInt ∧
      Counts (n + 1) (stacked counter amount buff) := by
  unfold Counts Swings at *
  have h₁ : (add counter amount).toInt = counter.toInt + amount.toInt := by
    rw [toInt_add, clamp_of_mem] <;> omega
  have h₂ : (add (add counter amount) buff).toInt = counter.toInt + amount.toInt + buff.toInt := by
    rw [toInt_add, h₁, clamp_of_mem] <;> omega
  have h₃ : (Fighter.stacked counter amount buff).toInt =
      max (counter.toInt + amount.toInt + buff.toInt) 0 := by
    rw [Fighter.stacked, toInt_max, h₂, Int64.toInt_zero]
  unfold Exact.Fighter.stacked
  omega

/-! ## Hits -/

theorem Within.wound {n k : Nat} (hk : k < 2 ^ 26) {f : Fighter} (h : f.Within n k)
    {amount : Amount} (ha : amount.toInt ≤ hitSize) (type : DamageType) :
    (f.wound amount type).1.exact = f.exact.wound amount.toInt type ∧
      (f.wound amount type).1.Within n (k + 1) := by
  by_cases hpos : 0 < amount
  · have hdefense := nonneg_iff.2 h.defense.1
    have hd := toInt_defense_wound hdefense hpos type
    have hl := toInt_life_wound hdefense hpos type
    have hpos' := pos_iff.1 hpos
    have hcount := h.defense
    have hlife := h.le_life
    have hmax := h.life_le
    unfold Counts at hcount
    unfold hitSize at ha hlife
    -- what is soaked up, and what is left to cost life
    generalize hs : (if type.blockable then min amount.toInt f.defense.toInt else 0) = soaked
      at hd hl
    have hsoaked : 0 ≤ soaked ∧ soaked ≤ amount.toInt ∧ soaked ≤ f.defense.toInt := by
      rw [← hs]
      split <;> omega
    rw [Int.max_eq_right (by omega)] at hl
    rw [wound_frame]
    refine ⟨?_, h.maxLife, ?_, ?_, ?_, h.burn, h.poison, h.spike, h.buffs⟩
    · rw [Exact.Fighter.wound, if_neg (by omega)]
      simp only [exact, hd, hl, hs]
    · simp only [hl]
      omega
    · simp only [hl, hitSize]
      omega
    · unfold Counts
      simp only [hd]
      omega
  · have hle := not_pos_iff.1 hpos
    rw [wound_of_nonpos f hle, Exact.Fighter.wound, if_pos (nonpos_iff.1 hle)]
    exact ⟨rfl, h.mono (Nat.le_refl n) (Nat.le_succ k)⟩

theorem Within.thorns {n k : Nat} (hn : n ≤ 2 ^ 16) {f : Fighter} (h : f.Within n k) :
    f.exact.thorns = f.thorns.map Int64.toInt := by
  have hspike := h.spike
  have hbuff : Swings n f.buffs.spike := h.buffs .spike
  have hsum : (add f.spike f.buffs.spike).toInt = f.spike.toInt + f.buffs.spike.toInt := by
    unfold Counts at hspike
    unfold Swings at hbuff
    rw [toInt_add, clamp_of_mem] <;> omega
  unfold Exact.Fighter.thorns Fighter.thorns
  simp only [pos_iff, hsum]
  rw [apply_ite (Option.map Int64.toInt), Option.map_some, hsum]
  rfl

/-- A blow at a fighter whose spikes cost no more than a hit. -/
theorem Within.clash {n k : Nat} (hn : n ≤ 2 ^ 16) (hk : k < 2 ^ 26) {f attacker : Fighter}
    (h : f.Within n k) (hsting : f.sting ≤ hitSize) (hattacker : attacker.Within n k)
    {amount : Amount} (ha : amount.toInt ≤ hitSize) (type : DamageType) :
    f.exact.clash attacker.exact amount.toInt type =
        ((f.clash attacker amount type).struck.exact,
          (f.clash attacker amount type).attacker.exact,
          (f.clash attacker amount type).impact.reflected.map Int64.toInt) ∧
      (f.clash attacker amount type).struck.Within n (k + 1) ∧
      (f.clash attacker amount type).attacker.Within n (k + 1) := by
  obtain ⟨hw, hwithin⟩ := h.wound hk ha type
  have hnone : (f.wound amount type).2.reflected = none := by
    unfold Fighter.wound
    split <;> rfl
  have hm := hattacker.mono (Nat.le_refl n) (Nat.le_succ k)
  unfold Fighter.clash Exact.Fighter.clash
  simp only [← hw, h.thorns hn, ← pos_iff]
  by_cases hp : 0 < amount ∧ type.provokes
  · rw [if_pos hp, if_pos hp]
    cases ht : f.thorns with
    | none =>
      simp only [Option.map_none, hnone, true_and]
      exact ⟨hwithin, hm⟩
    | some sting =>
      have hle : sting.toInt ≤ hitSize := (sting_of_thorns_some ht).2 ▸ hsting
      obtain ⟨ha, hwithin'⟩ := hattacker.wound hk hle .spike
      simp only [Option.map_some, ← ha, true_and]
      exact ⟨hwithin, hwithin'⟩
  · rw [if_neg hp, if_neg hp]
    simp only [Option.map_none, hnone, true_and]
    exact ⟨hwithin, hm⟩

/-! ## Gains -/

theorem Within.heal {n k : Nat} (hn : n ≤ 2 ^ 16) (hk : k < 2 ^ 26) {f : Fighter}
    (h : f.Within n k) {amount : Amount} (ha : 0 ≤ amount.toInt ∧ amount.toInt ≤ 65535) :
    (f.heal amount).exact = f.exact.heal amount.toInt ∧ (f.heal amount).Within n (k + 1) := by
  have hlife := h.le_life
  have hmax := h.life_le
  have hceil := h.maxLife
  have hbuff : Swings n f.buffs.healing := h.buffs .healing
  have hpoison := h.poison
  unfold hitSize at hlife
  unfold Swings at hbuff
  unfold Counts at hpoison
  have hneg : ¬ amount < 0 := not_neg_iff.2 (nonneg_iff.2 ha.1)
  have h₁ : (add f.life amount).toInt = f.life.toInt + amount.toInt := by
    rw [toInt_add, clamp_of_mem] <;> omega
  have h₂ : (add (add f.life amount) f.buffs.healing).toInt =
      f.life.toInt + amount.toInt + f.buffs.healing.toInt := by
    rw [toInt_add, h₁, clamp_of_mem] <;> omega
  have h₃ : (min (add (add f.life amount) f.buffs.healing) f.maxLife).toInt =
      min (f.life.toInt + amount.toInt + f.buffs.healing.toInt) f.maxLife.toInt := by
    rw [toInt_min, h₂]
  have h₄ : (max (f.poison - amount) 0).toInt = max (f.poison.toInt - amount.toInt) 0 := by
    rw [toInt_max, Int64.toInt_zero,
      toInt_sub_of_nonneg (nonneg_iff.2 hpoison.1) (nonneg_iff.2 ha.1)]
  unfold Fighter.heal
  rw [if_neg hneg]
  refine ⟨?_, h.maxLife, ?_, ?_, h.defense, h.burn, ?_, h.spike, h.buffs⟩
  · rw [Exact.Fighter.heal, if_neg (by show ¬ amount.toInt < 0; omega)]
    simp only [exact, h₃, h₄]
    rfl
  · simp only [h₃]
    omega
  · simp only [h₃, hitSize]
    omega
  · unfold Counts
    simp only [h₄]
    omega

section
variable {n k : Nat} (hn : n < 2 ^ 16) {f : Fighter} (h : f.Within n k) {amount : Amount}
  (ha : 0 ≤ amount.toInt ∧ amount.toInt ≤ 65535)
include hn h ha

theorem Within.gainDefense : (f.gainDefense amount).exact = f.exact.gainDefense amount.toInt ∧
    (f.gainDefense amount).Within (n + 1) k := by
  obtain ⟨he, hc⟩ := h.defense.stacked hn ha (h.buffs .defense)
  have hm := h.mono (Nat.le_succ n) (Nat.le_refl k)
  unfold Fighter.gainDefense Exact.Fighter.gainDefense
  rw [if_neg (not_neg_iff.2 (nonneg_iff.2 ha.1)), if_neg (by omega)]
  exact ⟨congrArg (fun x => { f.exact with defense := x }) he, { hm with defense := hc }⟩

theorem Within.gainBurn : (f.gainBurn amount).exact = f.exact.gainBurn amount.toInt ∧
    (f.gainBurn amount).Within (n + 1) k := by
  obtain ⟨he, hc⟩ := h.burn.stacked hn ha (h.buffs .burn)
  have hm := h.mono (Nat.le_succ n) (Nat.le_refl k)
  unfold Fighter.gainBurn Exact.Fighter.gainBurn
  rw [if_neg (not_neg_iff.2 (nonneg_iff.2 ha.1)), if_neg (by omega)]
  exact ⟨congrArg (fun x => { f.exact with burn := x }) he, { hm with burn := hc }⟩

theorem Within.gainPoison : (f.gainPoison amount).exact = f.exact.gainPoison amount.toInt ∧
    (f.gainPoison amount).Within (n + 1) k := by
  obtain ⟨he, hc⟩ := h.poison.stacked hn ha (h.buffs .poison)
  have hm := h.mono (Nat.le_succ n) (Nat.le_refl k)
  unfold Fighter.gainPoison Exact.Fighter.gainPoison
  rw [if_neg (not_neg_iff.2 (nonneg_iff.2 ha.1)), if_neg (by omega)]
  exact ⟨congrArg (fun x => { f.exact with poison := x }) he, { hm with poison := hc }⟩

theorem Within.gainSpike : (f.gainSpike amount).exact = f.exact.gainSpike amount.toInt ∧
    (f.gainSpike amount).Within (n + 1) k := by
  obtain ⟨he, hc⟩ := h.spike.stacked hn ha (h.buffs .spike)
  have hm := h.mono (Nat.le_succ n) (Nat.le_refl k)
  unfold Fighter.gainSpike Exact.Fighter.gainSpike
  rw [if_neg (not_neg_iff.2 (nonneg_iff.2 ha.1)), if_neg (by omega)]
  exact ⟨congrArg (fun x => { f.exact with spike := x }) he, { hm with spike := hc }⟩

end

theorem Within.buff {n k : Nat} (hn : n < 2 ^ 16) {f : Fighter} (h : f.Within n k) (s : Stat)
    {amount : Amount} (ha : -32768 ≤ amount.toInt ∧ amount.toInt ≤ 32767) :
    (f.buff s amount).exact = f.exact.buff s amount.toInt ∧
      (f.buff s amount).Within (n + 1) k := by
  have hm := h.mono (Nat.le_succ n) (Nat.le_refl k)
  have hs := h.buffs s
  unfold Swings at hs
  have hadd : (add (f.buffs.get s) amount).toInt = (f.buffs.get s).toInt + amount.toInt := by
    rw [toInt_add, clamp_of_mem] <;> omega
  have hget : ∀ t, (f.buff s amount).buffs.get t =
      if s = t then add (f.buffs.get s) amount else f.buffs.get t := by
    intro t
    show (f.buffs.modify s _).get t = _
    rw [Buffs.get_modify]
    split
    · rename_i ht
      rw [ht]
    · rfl
  refine ⟨?_, { hm with buffs := fun t => ?_ }⟩
  · have hbuffs : (fun t => ((f.buff s amount).buffs.get t).toInt) =
        Function.update (fun t => (f.buffs.get t).toInt) s
          ((f.buffs.get s).toInt + amount.toInt) := by
      funext t
      rw [hget t, Function.update_apply]
      by_cases ht : s = t
      · rw [if_pos ht, if_pos ht.symm, hadd]
      · rw [if_neg ht, if_neg (Ne.symm ht)]
    exact congrArg (fun b => { f.exact with buffs := b }) hbuffs
  · rw [hget t]
    split
    · unfold Swings
      rw [hadd]
      omega
    · exact hm.buffs t

theorem Within.cleanse {n k : Nat} {f : Fighter} (h : f.Within n k) :
    f.cleanse.exact = f.exact.cleanse ∧ f.cleanse.Within n k :=
  ⟨rfl, { h with burn := counts_zero n, poison := counts_zero n }⟩

end Fighter

end Skirmish
