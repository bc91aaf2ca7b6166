import Skirmish.Proofs.Fighter.Losses

/-!
# Waning

Burn and poison strike for their counts and fade by one with every tick. `Waned m n f g` gives, in
exact integers, what `m` ticks of burn and `n` of poison make of a fighter. A tick of either keeps
it (`Waned.sufferBurn`, `Waned.sufferPoison`), so the order of the ticks does not matter. Rounds of
both go on until the longer of the two has faded (`Waned.fade`).
-/

namespace Skirmish

/-- What status damage comes from. -/
inductive Ailment where
  | burn
  | poison
  deriving DecidableEq, Repr

namespace Fighter

open Saturating

/-- The counter of an ailment. -/
def ailing (f : Fighter) : Ailment → Amount
  | .burn => f.burn
  | .poison => f.poison

/-- A tick of an ailment. -/
def suffer (f : Fighter) : Ailment → Fighter × Option Impact
  | .burn => f.sufferBurn
  | .poison => f.sufferPoison

/-- The fighter after some ticks. -/
def ticked (f : Fighter) (ticks : List Ailment) : Fighter :=
  ticks.foldl (fun f ailment => (f.suffer ailment).1) f

/-! ## Tolls -/

/-- The damage of some ticks, counting down from `count`: the sum of `count`, `count - 1` and so
on, of as many as there are ticks, but of none below one. -/
def toll (count : Int) (ticks : Nat) : Int :=
  ∑ i ∈ Finset.range (min ticks count.toNat), (count - i)

theorem toll_zero (count : Int) : toll count 0 = 0 := by
  simp [toll]

theorem toll_succ (count : Int) (ticks : Nat) :
    toll count (ticks + 1) = toll count ticks + max 0 (count - ticks) := by
  unfold toll
  by_cases h : ticks < count.toNat
  · rw [Nat.min_eq_left h, Nat.min_eq_left (Nat.le_of_lt h), Finset.sum_range_succ]
    omega
  · rw [Nat.min_eq_right (Nat.le_succ_of_le (Nat.le_of_not_lt h)),
      Nat.min_eq_right (Nat.le_of_not_lt h)]
    omega

theorem toll_of_not_pos {count : Int} {ticks : Nat} (h : ¬ 0 < max 0 (count - ticks)) :
    toll count (ticks + 1) = toll count ticks := by
  rw [toll_succ]
  omega

/-- When it has faded, a count has dealt its triangular number. -/
theorem toll_eq {count : Int} {ticks : Nat} (hcount : 0 ≤ count) (h : count ≤ ticks) :
    toll count ticks = count * (count + 1) / 2 := by
  have hpartial (n : Nat) : (∑ i ∈ Finset.range n, (count - i)) * 2 = n * (2 * count - n + 1) := by
    induction n with
    | zero => simp
    | succ n ih =>
      rw [Finset.sum_range_succ, Int.add_mul, ih]
      push_cast
      ring
  have hall := hpartial count.toNat
  rw [Int.toNat_of_nonneg hcount, show 2 * count - count + 1 = count + 1 by ring] at hall
  unfold toll
  rw [Nat.min_eq_right (by omega), ← hall, Int.mul_ediv_cancel _ (by decide)]

/-! ## What is left

A count that has been ticked is left at its difference from the number of ticks, but not below
zero. Defense that has met a part of a toll is left in the same way. -/

theorem left_of_pos {count : Int} {ticks : Nat} (h : 0 < max 0 (count - ticks)) :
    max 0 (count - (ticks + 1 : Nat)) = max 0 (count - ticks) - 1 := by
  omega

theorem left_of_not_pos {count : Int} {ticks : Nat} (h : ¬ 0 < max 0 (count - ticks)) :
    max 0 (count - (ticks + 1 : Nat)) = max 0 (count - ticks) := by
  omega

theorem defense_left (defense dealt : Int) {damage : Int} (h : 0 ≤ damage) :
    max 0 (defense - dealt) - min damage (max 0 (defense - dealt)) =
      max 0 (defense - (dealt + damage)) := by
  omega

theorem life_left (life : Int) {loss : Int} (h : 0 ≤ loss) :
    max (-2 ^ 63) (max (-2 ^ 63) life - loss) = max (-2 ^ 63) (life - loss) := by
  omega

/-- What gets past defense, of all that is dealt, adds up. -/
theorem past_defense (defense dealt : Int) {damage : Int} (h : 0 ≤ damage) :
    max 0 (dealt - defense) + (damage - min damage (max 0 (defense - dealt))) =
      max 0 (dealt + damage - defense) := by
  omega

/-! ## Ticks -/

theorem toInt_sub_one {a : Amount} (h : 0 < a) : (a - 1).toInt = a.toInt - 1 :=
  toInt_sub_of_nonneg (Int64.le_of_lt h) (by decide)

theorem sufferBurn_of_pos {f : Fighter} (h : 0 < f.burn) :
    f.sufferBurn = ({ (f.wound f.burn .burn).1 with burn := f.burn - 1 },
      some (f.wound f.burn .burn).2) := by
  unfold sufferBurn
  rw [if_neg fun hn => not_pos_iff.2 hn h]
  simp only [burn_wound]

theorem sufferPoison_of_pos {f : Fighter} (h : 0 < f.poison) :
    f.sufferPoison = ({ (f.wound f.poison .poison).1 with poison := f.poison - 1 },
      some (f.wound f.poison .poison).2) := by
  unfold sufferPoison
  rw [if_neg fun hn => not_pos_iff.2 hn h]
  simp only [poison_wound]

theorem suffer_of_not_pos {f : Fighter} {ailment : Ailment} (h : ¬ 0 < f.ailing ailment) :
    f.suffer ailment = (f, none) := by
  cases ailment with
  | burn => exact if_pos (not_pos_iff.1 h)
  | poison => exact if_pos (not_pos_iff.1 h)

/-- A tick strikes exactly if it has something to strike for. -/
theorem isSome_suffer_iff (f : Fighter) (ailment : Ailment) :
    (f.suffer ailment).2.isSome ↔ 0 < f.ailing ailment := by
  by_cases h : 0 < f.ailing ailment
  · refine iff_of_true ?_ h
    cases ailment with
    | burn => exact congrArg (·.2.isSome) (sufferBurn_of_pos h)
    | poison => exact congrArg (·.2.isSome) (sufferPoison_of_pos h)
  · rw [suffer_of_not_pos h]
    exact iff_of_false nofun h

/-- What `m` ticks of burn and `n` ticks of poison make of a fighter. -/
structure Waned (m n : Nat) (f g : Fighter) : Prop where
  burn : g.burn.toInt = max 0 (f.burn.toInt - m)
  poison : g.poison.toInt = max 0 (f.poison.toInt - n)
  defense : g.defense.toInt = max 0 (f.defense.toInt - toll f.burn.toInt m)
  life : g.life.toInt = max (-2 ^ 63) (f.life.toInt - toll f.poison.toInt n -
    max 0 (toll f.burn.toInt m - f.defense.toInt))
  maxLife : g.maxLife = f.maxLife
  spike : g.spike = f.spike
  buffs : g.buffs = f.buffs

namespace Waned

variable {m n : Nat} {f g : Fighter}

theorem refl (hburn : 0 ≤ f.burn) (hpoison : 0 ≤ f.poison) (hdefense : 0 ≤ f.defense) :
    Waned 0 0 f f := by
  rw [nonneg_iff] at hburn hpoison hdefense
  have hlife := (fits_toInt f.life).1
  refine ⟨?_, ?_, ?_, ?_, rfl, rfl, rfl⟩
  · omega
  · omega
  · rw [toll_zero]
    omega
  · rw [toll_zero, toll_zero]
    omega

theorem defense_nonneg (h : Waned m n f g) : 0 ≤ g.defense := by
  rw [nonneg_iff, h.defense]
  exact Int.le_max_left _ _

/-- Burn strikes what defense is left, and life for the rest. -/
theorem sufferBurn (h : Waned m n f g) : Waned (m + 1) n f g.sufferBurn.1 := by
  have htoll := toll_succ f.burn.toInt m
  rw [← h.burn] at htoll
  by_cases hpos : 0 < g.burn
  · have hdamage := Int.le_of_lt (pos_iff.1 hpos)
    have hd := toInt_defense_wound h.defense_nonneg hpos .burn
    have hl := toInt_life_wound h.defense_nonneg hpos .burn
    have hblockable : DamageType.burn.blockable = true := rfl
    rw [if_pos hblockable, h.defense] at hd hl
    rw [h.life] at hl
    rw [sufferBurn_of_pos hpos]
    refine ⟨?_, ?_, ?_, ?_, ?_, ?_, ?_⟩
    · rw [left_of_pos (h.burn ▸ pos_iff.1 hpos), ← h.burn]
      exact toInt_sub_one hpos
    · simpa using h.poison
    · rw [htoll, ← defense_left _ _ hdamage]
      exact hd
    · have hloss := Int.sub_nonneg.2 (Int.min_le_left g.burn.toInt g.defense.toInt)
      rw [h.defense] at hloss
      rw [htoll, ← past_defense _ _ hdamage, ← Int.sub_sub, ← life_left _ hloss]
      exact hl
    · simpa using h.maxLife
    · simpa using h.spike
    · simpa using h.buffs
  · have hsame : g.sufferBurn = (g, none) := @suffer_of_not_pos g .burn hpos
    have hspent : ¬ 0 < max 0 (f.burn.toInt - m) := h.burn ▸ mt pos_iff.2 hpos
    rw [hsame]
    refine { h with burn := ?_, defense := ?_, life := ?_ }
    · rw [left_of_not_pos hspent]
      exact h.burn
    · rw [toll_of_not_pos hspent]
      exact h.defense
    · rw [toll_of_not_pos hspent]
      exact h.life

/-- Poison strikes life alone. -/
theorem sufferPoison (h : Waned m n f g) : Waned m (n + 1) f g.sufferPoison.1 := by
  have htoll := toll_succ f.poison.toInt n
  rw [← h.poison] at htoll
  by_cases hpos : 0 < g.poison
  · have hdamage := Int.le_of_lt (pos_iff.1 hpos)
    have hd := toInt_defense_wound h.defense_nonneg hpos .poison
    have hl := toInt_life_wound h.defense_nonneg hpos .poison
    have hblockable : ¬ DamageType.poison.blockable = true := nofun
    rw [if_neg hblockable, Int.sub_zero] at hd hl
    rw [h.life, life_left _ hdamage] at hl
    rw [sufferPoison_of_pos hpos]
    refine ⟨?_, ?_, ?_, ?_, ?_, ?_, ?_⟩
    · simpa using h.burn
    · rw [left_of_pos (h.poison ▸ pos_iff.1 hpos), ← h.poison]
      exact toInt_sub_one hpos
    · exact hd.trans h.defense
    · rw [htoll, ← Int.sub_sub, sub_right_comm]
      exact hl
    · simpa using h.maxLife
    · simpa using h.spike
    · simpa using h.buffs
  · have hsame : g.sufferPoison = (g, none) := @suffer_of_not_pos g .poison hpos
    have hspent : ¬ 0 < max 0 (f.poison.toInt - n) := h.poison ▸ mt pos_iff.2 hpos
    rw [hsame]
    refine { h with poison := ?_, life := ?_ }
    · rw [left_of_not_pos hspent]
      exact h.poison
    · rw [toll_of_not_pos hspent]
      exact h.life

theorem frame (h : Waned m n f g) :
    g = { f with life := g.life, defense := g.defense, burn := g.burn, poison := g.poison } := by
  rw [← h.maxLife, ← h.spike, ← h.buffs]

theorem ticked (h : Waned m n f g) (ticks : List Ailment) :
    Waned (m + ticks.count .burn) (n + ticks.count .poison) f (g.ticked ticks) := by
  induction ticks generalizing m n g with
  | nil => exact h
  | cons ailment ticks ih =>
    cases ailment with
    | burn =>
      have hrest := ih h.sufferBurn
      rw [Nat.add_right_comm] at hrest
      simp only [List.count_cons]
      exact hrest
    | poison =>
      have hrest := ih h.sufferPoison
      rw [Nat.add_right_comm] at hrest
      simp only [List.count_cons]
      exact hrest

/-- A round is a tick of each. -/
theorem decay (h : Waned m n f g) : Waned (m + 1) (n + 1) f g.decay.1 :=
  h.sufferBurn.sufferPoison

end Waned

/-! ## Rounds -/

theorem afflicted_iff (f : Fighter) : f.afflicted ↔ 0 < f.burn.toInt ∨ 0 < f.poison.toInt := by
  rw [← pos_iff, ← pos_iff]
  simp [afflicted]

theorem toInt_ailing_suffer (f : Fighter) (ailment : Ailment) :
    ((f.suffer ailment).1.ailing ailment).toInt =
      (f.ailing ailment).toInt - if 0 < (f.ailing ailment).toInt then 1 else 0 := by
  by_cases h : 0 < f.ailing ailment
  · rw [if_pos (pos_iff.1 h)]
    cases ailment with
    | burn =>
      show f.sufferBurn.1.burn.toInt = f.burn.toInt - 1
      rw [sufferBurn_of_pos h]
      exact toInt_sub_one h
    | poison =>
      show f.sufferPoison.1.poison.toInt = f.poison.toInt - 1
      rw [sufferPoison_of_pos h]
      exact toInt_sub_one h
  · rw [if_neg (fun hpos => h (pos_iff.2 hpos)), suffer_of_not_pos h, Int.sub_zero]

theorem ailing_suffer_of_ne (f : Fighter) {ailment other : Ailment} (h : other ≠ ailment) :
    (f.suffer ailment).1.ailing other = f.ailing other := by
  by_cases hpos : 0 < f.ailing ailment
  · cases ailment with
    | burn =>
      cases other with
      | burn => exact absurd rfl h
      | poison =>
        show f.sufferBurn.1.poison = f.poison
        rw [sufferBurn_of_pos hpos, poison_wound]
    | poison =>
      cases other with
      | burn =>
        show f.sufferPoison.1.burn = f.burn
        rw [sufferPoison_of_pos hpos, burn_wound]
      | poison => exact absurd rfl h
  · rw [suffer_of_not_pos hpos]

/-- A round takes one off either counter. -/
theorem toInt_ailing_decay (f : Fighter) (ailment : Ailment) :
    (f.decay.1.ailing ailment).toInt =
      (f.ailing ailment).toInt - if 0 < (f.ailing ailment).toInt then 1 else 0 := by
  have hround : f.decay.1 = ((f.suffer .burn).1.suffer .poison).1 := rfl
  rw [hround]
  cases ailment with
  | burn => rw [ailing_suffer_of_ne _ (by decide), toInt_ailing_suffer]
  | poison => rw [toInt_ailing_suffer, ailing_suffer_of_ne _ (by decide)]

/-- Rounds of status damage, one after the other while the fighter is afflicted: how many there
are, and what they leave. -/
def fade (f : Fighter) : Nat × Fighter :=
  if f.afflicted then
    let (rounds, last) := f.decay.1.fade
    (rounds + 1, last)
  else
    (0, f)
termination_by f.burn.toInt.toNat + f.poison.toInt.toNat
decreasing_by
  rename_i h
  have hburn := f.toInt_ailing_decay .burn
  have hpoison := f.toInt_ailing_decay .poison
  rw [afflicted_iff] at h
  unfold ailing at hburn hpoison
  dsimp only at hburn hpoison
  omega

theorem fade_of_afflicted {f : Fighter} (h : f.afflicted) :
    f.fade = (f.decay.1.fade.1 + 1, f.decay.1.fade.2) := by
  rw [fade, if_pos h]

theorem fade_of_not_afflicted {f : Fighter} (h : ¬ f.afflicted) : f.fade = (0, f) := by
  rw [fade, if_neg h]

/-- However many rounds have passed, those that are left end with the longer of both ailments. -/
theorem Waned.fade {f g : Fighter} {k : Nat} (h : Waned k k f g)
    (hk : k ≤ max f.burn.toInt f.poison.toInt) :
    (k + g.fade.1 : Nat) = max f.burn.toInt f.poison.toInt ∧
      Waned (k + g.fade.1) (k + g.fade.1) f g.fade.2 := by
  have hburn := h.burn
  have hpoison := h.poison
  induction g using fade.induct generalizing k with
  | case1 g hafflicted _ _ _ ih =>
    have hleft := g.afflicted_iff.1 hafflicted
    have hround := h.decay
    have hrest := ih hround (by omega) hround.burn hround.poison
    rw [Nat.add_right_comm] at hrest
    rw [fade_of_afflicted hafflicted]
    exact hrest
  | case2 g hcalm =>
    have hnone := mt g.afflicted_iff.2 hcalm
    rw [fade_of_not_afflicted hcalm]
    exact ⟨by omega, h⟩

/-- What status damage comes to depends on the numbers of ticks alone, not on their order: burn
deals its toll to defense first, poison deals its own to life, and both counters go down. A tick
strikes as long as its counter is positive. Rounds of both go on for as many rounds as the larger
counter has, and deal the triangular number of each. -/
theorem ticked_closed_form {f : Fighter} (hburn : 0 ≤ f.burn) (hpoison : 0 ≤ f.poison)
    (hdefense : 0 ≤ f.defense) :
    let b := f.burn.toInt
    let p := f.poison.toInt
    (∀ ticks : List Ailment,
        Waned (ticks.count .burn) (ticks.count .poison) f (f.ticked ticks)) ∧
      (∀ (ticks : List Ailment) (ailment : Ailment),
        ((f.ticked ticks).suffer ailment).2.isSome ↔ 0 < (f.ticked ticks).ailing ailment) ∧
      f.fade.1 = max b p ∧
      f.fade.2.burn = 0 ∧ f.fade.2.poison = 0 ∧
      f.fade.2.defense.toInt = max 0 (f.defense.toInt - b * (b + 1) / 2) ∧
      f.fade.2.life.toInt = max (-2 ^ 63) (f.life.toInt - p * (p + 1) / 2 -
        max 0 (b * (b + 1) / 2 - f.defense.toInt)) ∧
      f.fade.2 = { f with
        life := f.fade.2.life, defense := f.fade.2.defense, burn := 0, poison := 0 } := by
  intro b p
  have hnone : Waned 0 0 f f := .refl hburn hpoison hdefense
  rw [nonneg_iff] at hburn hpoison
  obtain ⟨hrounds, hlast⟩ := hnone.fade (by omega)
  rw [Nat.zero_add] at hrounds hlast
  have hburnt : f.fade.2.burn = 0 := by
    rw [← Int64.toInt_inj, hlast.burn, Int64.toInt_zero]
    omega
  have hcured : f.fade.2.poison = 0 := by
    rw [← Int64.toInt_inj, hlast.poison, Int64.toInt_zero]
    omega
  have hframe := hlast.frame
  rw [hburnt, hcured] at hframe
  refine ⟨fun ticks => ?_, fun ticks ailment => isSome_suffer_iff _ _, hrounds, hburnt, hcured,
    ?_, ?_, hframe⟩
  · have hticked := hnone.ticked ticks
    rwa [Nat.zero_add, Nat.zero_add] at hticked
  · rw [hlast.defense, toll_eq hburn (by omega)]
  · rw [hlast.life, toll_eq hburn (by omega), toll_eq hpoison (by omega)]

/-- Defense runs out under the second tick, and life reaches its least value under the last. -/
theorem ticked_closed_form_frail :
    let f : Fighter := { maxLife := 20, life := Int64.minValue + 4, defense := 4, burn := 3,
                         poison := 2, spike := 1 }
    0 ≤ f.burn ∧ 0 ≤ f.poison ∧ 0 ≤ f.defense ∧
      Waned 2 1 f (f.ticked [.burn, .poison, .burn]) ∧
      Waned 2 1 f (f.ticked [.poison, .burn, .burn]) ∧
      f.fade.1 = (3 : Int) ∧ f.fade.2.defense.toInt = 0 ∧ f.fade.2.life.toInt = -2 ^ 63 := by
  intro f
  obtain ⟨hticked, -, hrounds, -, -, hdefense, hlife, -⟩ :=
    ticked_closed_form (f := f) (by decide) (by decide) (by decide)
  exact ⟨by decide, by decide, by decide, hticked [.burn, .poison, .burn],
    hticked [.poison, .burn, .burn], hrounds.trans (by decide), hdefense.trans (by decide),
    hlife.trans (by decide)⟩

end Fighter

end Skirmish
