import Skirmish.Proofs.Combat.Onslaught

/-!
# Cues of strikes

A strike shows spikes when the struck opponent has a sting. Stings stay as they are under blows, so
what the strikes of a round show is known before it: one cue for each place with a sting
(`cues_strikes`), whatever became of anybody's life and counters on the way.
-/

namespace Skirmish

namespace Fighter

/-- The answer to a blow is the thorns of the struck. -/
theorem reflected_clash (f attacker : Fighter) {amount : Amount} (h : 0 < amount) :
    (f.clash attacker amount .attack).impact.reflected = f.thorns := by
  unfold clash
  rw [wound_of_pos f h, if_pos ⟨h, rfl⟩]
  cases f.thorns <;> rfl

theorem isSome_thorns_iff (f : Fighter) : f.thorns.isSome ↔ 0 < f.sting := by
  cases h : f.thorns with
  | none => simp [sting_of_thorns_none h]
  | some sting =>
    obtain ⟨hpos, hsting⟩ := sting_of_thorns_some h
    rw [hsting]
    exact iff_of_true rfl (Saturating.pos_iff.1 hpos)

end Fighter

namespace Combat

variable {σ : Type} {c : Combat σ} {damage : Amount}

theorem cues_strike (c : Combat σ) (h : 0 < damage) (i : Nat) :
    (c.strike damage i).cues = if 0 < c.stingAt i then c.cues.push .spikes else c.cues := by
  unfold strike stingAt
  cases c.pool[i]? with
  | none => rfl
  | some opponent =>
    simp only [opponent.reflected_clash c.actor h, opponent.isSome_thorns_iff, Option.map_some,
      Option.getD_some]
    split <;> rfl

/-- Strikes leave everybody's spikes alone. -/
theorem stingAt_strike (c : Combat σ) (damage : Amount) (i : Nat) :
    (c.strike damage i).stingAt = c.stingAt := by
  cases hi : c.pool[i]? with
  | none => rw [strike_of_none hi]
  | some f =>
    funext j
    unfold stingAt
    rw [pool_strike_of_some hi]
    by_cases hj : i = j
    · subst hj
      have hstruck : (f.clash c.actor damage .attack).struck.sting = f.sting := by
        rw [Fighter.struck_clash]
        exact Fighter.sting_congr (Fighter.spike_wound f _ _) (Fighter.buffs_wound f _ _)
      rw [List.getElem?_set_self (List.getElem?_eq_some_iff.1 hi).1, hi, Option.map_some,
        Option.map_some, hstruck]
    · rw [List.getElem?_set_ne hj]

theorem cues_strikes (c : Combat σ) (hd : 0 < damage) (places : List Nat) :
    (places.foldl (strike damage) c).cues.toList =
      c.cues.toList ++ List.replicate (places.countP fun i => 0 < c.stingAt i) .spikes := by
  induction places generalizing c with
  | nil => simp
  | cons i places ih =>
    rw [List.foldl_cons, ih, stingAt_strike, cues_strike c hd, List.countP_cons]
    by_cases hi : 0 < c.stingAt i
    · simp [hi, List.replicate_succ]
    · simp [hi]

end Combat

end Skirmish
