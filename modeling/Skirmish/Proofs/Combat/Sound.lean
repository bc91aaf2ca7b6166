import Skirmish.Proofs.Course
import Skirmish.Proofs.Fighter.Sound

/-!
# Sound combats

A combat is sound when everyone in it is. Carrying out an action, whatever its amount and wherever
it reaches, keeps soundness and the size of the pool, so every run does.
-/

namespace Skirmish.Combat

variable {σ : Type}

/-! ## The small changes of a combat -/

section
variable (c : Combat σ) (q : Cue)

@[simp] theorem actor_cue : (c.cue q).actor = c.actor := rfl

@[simp] theorem pool_cue : (c.cue q).pool = c.pool := rfl

@[simp] theorem source_cue : (c.cue q).source = c.source := rfl

end

@[simp] theorem pool_onActor (c : Combat σ) (f : Fighter → Fighter) :
    (c.onActor f).pool = c.pool := rfl

@[simp] theorem actor_onPlaces (c : Combat σ) (places : List Nat) (f : Fighter → Fighter) :
    (c.onPlaces places f).actor = c.actor := rfl

@[simp] theorem length_pool_onPlaces (c : Combat σ) (places : List Nat) (f : Fighter → Fighter) :
    (c.onPlaces places f).pool.length = c.pool.length := by
  unfold onPlaces
  simp only
  generalize c.pool = pool
  induction places generalizing pool with
  | nil => rfl
  | cons i places ih => rw [List.foldl_cons, ih, List.length_modify]

/-- The opponent at a place is changed as often as the place occurs. -/
theorem getElem?_onPlaces (c : Combat σ) (places : List Nat) (f : Fighter → Fighter)
    (i : Nat) : (c.onPlaces places f).pool[i]? = c.pool[i]?.map f^[places.count i] := by
  unfold onPlaces
  dsimp only
  generalize c.pool = pool
  induction places generalizing pool with
  | nil => simp
  | cons j places ih =>
    rw [List.foldl_cons, ih, List.getElem?_modify, List.count_cons, Option.map_eq_map,
      Option.map_map]
    congr 1
    by_cases hj : j = i
    · subst hj
      simp [Function.iterate_succ]
    · simp [hj, Function.comp_def]

/-- A strike outside the pool hits nobody. -/
theorem strike_of_none {c : Combat σ} {i : Nat} (h : c.pool[i]? = none) (damage : Amount) :
    c.strike damage i = c := by
  unfold strike
  rw [h]

theorem actor_strike_of_some {c : Combat σ} {i : Nat} {f : Fighter} (h : c.pool[i]? = some f)
    (damage : Amount) : (c.strike damage i).actor = (f.clash c.actor damage .attack).attacker := by
  unfold strike
  rw [h]
  simp only
  split <;> rfl

theorem pool_strike_of_some {c : Combat σ} {i : Nat} {f : Fighter} (h : c.pool[i]? = some f)
    (damage : Amount) :
    (c.strike damage i).pool = c.pool.set i (f.clash c.actor damage .attack).struck := by
  unfold strike
  rw [h]
  simp only
  split <;> rfl

@[simp] theorem length_pool_strike (c : Combat σ) (damage : Amount) (i : Nat) :
    (c.strike damage i).pool.length = c.pool.length := by
  cases h : c.pool[i]? with
  | none => rw [strike_of_none h]
  | some f => rw [pool_strike_of_some h, List.length_set]

@[simp] theorem length_pool_strikes (places : List Nat) (c : Combat σ) (damage : Amount) :
    (places.foldl (strike damage) c).pool.length = c.pool.length := by
  induction places generalizing c with
  | nil => rfl
  | cons i places ih => rw [List.foldl_cons, ih, length_pool_strike]

@[simp] theorem length_pool_attack (c : Combat σ) (amount : Amount) (slot : Option Slot)
    (places : List Nat) : (c.attack amount slot places).pool.length = c.pool.length := by
  unfold attack
  simp only
  split
  · rfl
  · rw [length_pool_strikes, pool_cue]

/-- Nobody joins or leaves the pool. -/
@[simp] theorem length_pool_carryOut (c : Combat σ) (a : Action) (origin : Origin)
    (places : List Nat) : (c.carryOut a origin places).pool.length = c.pool.length := by
  cases a with
  | attack a => exact length_pool_attack c _ _ _
  | defend n =>
    unfold carryOut
    simp only
    split
    · exact length_pool_onPlaces c _ _
    · rfl
  | burn n => exact length_pool_onPlaces c _ _
  | poison n => exact length_pool_onPlaces c _ _
  | _ => rfl

theorem strikes_frame (places : List Nat) (c : Combat σ) (damage : Amount) :
    places.foldl (strike damage) c =
      { c with
        actor := (places.foldl (strike damage) c).actor
        pool := (places.foldl (strike damage) c).pool
        cues := (places.foldl (strike damage) c).cues } := by
  induction places generalizing c with
  | nil => rfl
  | cons i places ih =>
    rw [List.foldl_cons, ih]
    unfold strike
    split
    · rfl
    · dsimp only
      split <;> rfl

@[simp] theorem source_strikes (places : List Nat) (c : Combat σ) (damage : Amount) :
    (places.foldl (strike damage) c).source = c.source := by rw [strikes_frame]

@[simp] theorem draws_strikes (places : List Nat) (c : Combat σ) (damage : Amount) :
    (places.foldl (strike damage) c).draws = c.draws := by rw [strikes_frame]

@[simp] theorem source_attack (c : Combat σ) (amount : Amount) (slot : Option Slot)
    (places : List Nat) : (c.attack amount slot places).source = c.source := by
  unfold attack
  simp only
  split
  · rfl
  · rw [source_strikes, source_cue]

/-! ## Soundness -/

structure Sound (c : Combat σ) : Prop where
  actor : c.actor.Sound
  pool : ∀ f ∈ c.pool, f.Sound

theorem Sound.cue {c : Combat σ} (h : c.Sound) (q : Cue) : (c.cue q).Sound := { h with }

theorem Sound.onActor {c : Combat σ} (h : c.Sound) {f : Fighter → Fighter}
    (hf : ∀ g : Fighter, g.Sound → (f g).Sound) : (c.onActor f).Sound :=
  ⟨hf _ h.actor, h.pool⟩

/-- What a change keeps of one opponent, it keeps of a pool. -/
theorem forall_mem_modify {P Q : Fighter → Prop} {pool : List Fighter} (h : ∀ g ∈ pool, P g)
    {f : Fighter → Fighter} (hf : ∀ g, P g → Q (f g)) (hPQ : ∀ g, P g → Q g) (i : Nat) :
    ∀ g ∈ pool.modify i f, Q g := by
  intro g hg
  obtain ⟨j, hj⟩ := List.mem_iff_getElem?.1 hg
  rw [List.getElem?_modify] at hj
  obtain ⟨g', hg', rfl⟩ := Option.map_eq_some_iff.1 hj
  have hs := h g' (List.mem_of_getElem? hg')
  split
  · exact hf g' hs
  · exact hPQ g' hs

theorem forall_mem_onPlaces {P : Fighter → Prop} {c : Combat σ} (h : ∀ g ∈ c.pool, P g)
    {f : Fighter → Fighter} (hf : ∀ g, P g → P (f g)) (places : List Nat) :
    ∀ g ∈ (c.onPlaces places f).pool, P g := by
  unfold onPlaces
  dsimp only
  generalize c.pool = pool at h
  induction places generalizing pool with
  | nil => exact h
  | cons i places ih => exact ih _ (forall_mem_modify h hf (fun _ hg => hg) i)

theorem Sound.onPlaces {c : Combat σ} (h : c.Sound) (places : List Nat) {f : Fighter → Fighter}
    (hf : ∀ g : Fighter, g.Sound → (f g).Sound) : (c.onPlaces places f).Sound :=
  ⟨h.actor, forall_mem_onPlaces h.pool hf places⟩

theorem Sound.strike {c : Combat σ} (h : c.Sound) (damage : Amount) (i : Nat) :
    (c.strike damage i).Sound := by
  cases hi : c.pool[i]? with
  | none =>
    rw [strike_of_none hi]
    exact h
  | some f =>
    have hc := (h.pool f (List.mem_of_getElem? hi)).clash h.actor damage .attack
    refine ⟨?_, fun g hg => ?_⟩
    · rw [actor_strike_of_some hi]
      exact hc.2
    · rw [pool_strike_of_some hi] at hg
      rcases List.mem_or_eq_of_mem_set hg with hg | rfl
      · exact h.pool g hg
      · exact hc.1

theorem Sound.strikes {c : Combat σ} (h : c.Sound) (damage : Amount) (places : List Nat) :
    (places.foldl (Combat.strike damage) c).Sound := by
  induction places generalizing c with
  | nil => exact h
  | cons i places ih => exact ih (h.strike damage i)

theorem Sound.attack {c : Combat σ} (h : c.Sound) (amount : Amount) (slot : Option Slot)
    (places : List Nat) : (c.attack amount slot places).Sound := by
  unfold Combat.attack
  simp only
  split
  · exact h.cue _
  · exact (h.cue _).strikes _ places

theorem Sound.carryOut {c : Combat σ} (h : c.Sound) (a : Action) (origin : Origin)
    (places : List Nat) : (c.carryOut a origin places).Sound := by
  cases a with
  | attack a => exact h.attack _ _ _
  | defend n =>
    unfold Combat.carryOut
    simp only
    split
    · exact (h.onPlaces places fun g hg => hg.gainDefense n).cue _
    · exact (h.onActor fun g hg => hg.gainDefense n).cue _
  | heal n => exact (h.cue _).onActor fun g hg => hg.heal n
  | burn n => exact (h.onPlaces places fun g hg => hg.gainBurn n).cue _
  | poison n => exact (h.onPlaces places fun g hg => hg.gainPoison n).cue _
  | spike n => exact (h.cue _).onActor fun g hg => hg.gainSpike n
  | draw n => exact { h with }
  | cleanse => exact (h.cue _).onActor fun g hg => hg.cleanse
  | buff s n => exact (h.cue _).onActor fun g hg => hg.buff s n

section
variable [Chance σ]

theorem Sound.round {c c' : Combat σ} (h : c.Sound) {origin : Origin} {target : Option Nat}
    {a : Action} (hr : c.round origin target a = .ok c') : c'.Sound := by
  obtain ⟨places, source, -, rfl⟩ := round_eq_ok_iff.1 hr
  have hs : ({ c with source } : Combat σ).Sound := { h with }
  exact hs.carryOut a origin places

theorem length_pool_round {c c' : Combat σ} {origin : Origin} {target : Option Nat}
    {a : Action} (hr : c.round origin target a = .ok c') : c'.pool.length = c.pool.length := by
  obtain ⟨places, source, -, rfl⟩ := round_eq_ok_iff.1 hr
  exact length_pool_carryOut _ a origin places

end

end Skirmish.Combat
