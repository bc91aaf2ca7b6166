import Skirmish.Chance.Script
import Skirmish.Proofs.Combat.Checked

/-!
# What a plan leaves alone

A plan can only wear its opponents down: `Worn` says what it leaves of one of them, who may gain
defense, burn or poison only where the target is declared. The actor's own ills can only fade
(`Tended`). Both relations compose, and carrying out one action keeps both (`spares_carryOut`), so a
whole plan does, whether or not it succeeds.

Whoever no action reaches is not changed at all (`getElem?_pool_carryOut`); without an attack on
everyone or at random, only the declared target is reached.
-/

namespace Skirmish

namespace Fighter

open Saturating

/-! ## Opponents -/

/-- What is left of an opponent. Only one that is aimed at may have gained anything. -/
structure Worn (aimed : Prop) (f g : Fighter) : Prop where
  maxLife : g.maxLife = f.maxLife
  spike : g.spike = f.spike
  buffs : g.buffs = f.buffs
  life : g.life ≤ f.life
  burn : ¬ aimed → g.burn = f.burn
  poison : ¬ aimed → g.poison = f.poison
  defense : ¬ aimed → g.defense ≤ f.defense

namespace Worn

variable {aimed : Prop} {f g h : Fighter}

theorem refl (aimed : Prop) (f : Fighter) : Worn aimed f f :=
  ⟨rfl, rfl, rfl, Int64.le_refl _, fun _ => rfl, fun _ => rfl, fun _ => Int64.le_refl _⟩

theorem trans (hfg : Worn aimed f g) (hgh : Worn aimed g h) : Worn aimed f h where
  maxLife := hgh.maxLife.trans hfg.maxLife
  spike := hgh.spike.trans hfg.spike
  buffs := hgh.buffs.trans hfg.buffs
  life := Int64.le_trans hgh.life hfg.life
  burn ha := (hgh.burn ha).trans (hfg.burn ha)
  poison ha := (hgh.poison ha).trans (hfg.poison ha)
  defense ha := Int64.le_trans (hgh.defense ha) (hfg.defense ha)

theorem iterate {gain : Fighter → Fighter} (hgain : ∀ f, Worn aimed f (gain f)) (k : Nat)
    (f : Fighter) : Worn aimed f (gain^[k] f) := by
  induction k generalizing f with
  | zero => exact .refl aimed f
  | succ k ih => exact (hgain f).trans (ih (gain f))

end Worn

theorem worn_wound {f : Fighter} (h : f.Sound) (aimed : Prop) (amount : Amount)
    (type : DamageType) : Worn aimed f (f.wound amount type).1 := by
  by_cases hpos : 0 < amount
  · have hdefense := toInt_defense_wound h.defense hpos type
    have hlife := toInt_life_wound h.defense hpos type
    have hnonneg := nonneg_iff.1 h.defense
    have hamount := pos_iff.1 hpos
    have hmin := (fits_toInt f.life).1
    refine ⟨maxLife_wound f _ _, spike_wound f _ _, buffs_wound f _ _, ?_,
      fun _ => burn_wound f _ _, fun _ => poison_wound f _ _, fun _ => ?_⟩
    · rw [Int64.le_iff_toInt_le, hlife]
      split <;> omega
    · rw [Int64.le_iff_toInt_le, hdefense]
      split <;> omega
  · rw [wound_of_nonpos f (not_pos_iff.1 hpos)]
    exact .refl aimed f

theorem worn_gainDefense (f : Fighter) (amount : Amount) : Worn True f (f.gainDefense amount) := by
  unfold gainDefense
  split
  · exact .refl True f
  · exact ⟨rfl, rfl, rfl, Int64.le_refl _, absurd trivial, absurd trivial, absurd trivial⟩

theorem worn_gainBurn (f : Fighter) (amount : Amount) : Worn True f (f.gainBurn amount) := by
  unfold gainBurn
  split
  · exact .refl True f
  · exact ⟨rfl, rfl, rfl, Int64.le_refl _, absurd trivial, absurd trivial, absurd trivial⟩

theorem worn_gainPoison (f : Fighter) (amount : Amount) : Worn True f (f.gainPoison amount) := by
  unfold gainPoison
  split
  · exact .refl True f
  · exact ⟨rfl, rfl, rfl, Int64.le_refl _, absurd trivial, absurd trivial, absurd trivial⟩

/-! ## The actor -/

/-- What becomes of a fighter that nobody may burn or poison. -/
structure Tended (f g : Fighter) : Prop where
  maxLife : g.maxLife = f.maxLife
  burn : g.burn ≤ f.burn
  poison : g.poison ≤ f.poison

namespace Tended

variable {f g h : Fighter}

theorem refl (f : Fighter) : Tended f f := ⟨rfl, Int64.le_refl _, Int64.le_refl _⟩

theorem trans (hfg : Tended f g) (hgh : Tended g h) : Tended f h where
  maxLife := hgh.maxLife.trans hfg.maxLife
  burn := Int64.le_trans hgh.burn hfg.burn
  poison := Int64.le_trans hgh.poison hfg.poison

end Tended

theorem tended_wound (f : Fighter) (amount : Amount) (type : DamageType) :
    Tended f (f.wound amount type).1 := by
  refine ⟨maxLife_wound f _ _, ?_, ?_⟩
  · rw [burn_wound]
    exact Int64.le_refl _
  · rw [poison_wound]
    exact Int64.le_refl _

theorem tended_heal {f : Fighter} (h : f.Sound) (amount : Amount) : Tended f (f.heal amount) := by
  unfold heal
  split
  · exact .refl f
  · rename_i hneg
    have hamount := not_neg_iff.1 hneg
    refine ⟨rfl, Int64.le_refl _, ?_⟩
    show max (f.poison - amount) 0 ≤ f.poison
    have hpoison := nonneg_iff.1 h.poison
    rw [Int64.le_iff_toInt_le, toInt_max, toInt_sub_of_nonneg h.poison hamount, Int64.toInt_zero]
    rw [nonneg_iff] at hamount
    omega

theorem tended_cleanse {f : Fighter} (h : f.Sound) : Tended f f.cleanse :=
  ⟨rfl, h.burn, h.poison⟩

theorem tended_gainDefense (f : Fighter) (amount : Amount) : Tended f (f.gainDefense amount) := by
  unfold gainDefense
  split
  · exact .refl f
  · exact ⟨rfl, Int64.le_refl _, Int64.le_refl _⟩

theorem tended_gainSpike (f : Fighter) (amount : Amount) : Tended f (f.gainSpike amount) := by
  unfold gainSpike
  split
  · exact .refl f
  · exact ⟨rfl, Int64.le_refl _, Int64.le_refl _⟩

theorem tended_buff (f : Fighter) (stat : Stat) (amount : Amount) :
    Tended f (f.buff stat amount) := ⟨rfl, Int64.le_refl _, Int64.le_refl _⟩

theorem tended_clash (f attacker : Fighter) (amount : Amount) (type : DamageType) :
    Tended attacker (f.clash attacker amount type).attacker := by
  rcases f.attacker_clash attacker amount type with heq | ⟨sting, heq⟩
  · rw [heq]
    exact .refl attacker
  · rw [heq]
    exact tended_wound attacker sting .spike

end Fighter

/-! ## Combats -/

/-- Without an attack on everyone or at random, an action reaches the declared target or nobody. -/
theorem Action.eq_target_of_reach {σ : Type} [Chance σ] {a : Action} {origin : Origin}
    {target : Option Nat} {size : Nat} {source source' : σ} {places : List Nat}
    (h : a.reach origin target size source = .ok (places, source'))
    (ha : ∀ t ∈ a.targeting?, t = .declared) : ∀ i ∈ places, target = some i := by
  have hdeclared : Targeting.declared.recipients size target source = .ok (places, source') →
      ∀ i ∈ places, target = some i := by
    intro hr i hi
    rcases Targeting.cases_recipients hr with ⟨ht, -⟩ | ⟨ht, -⟩ | ⟨-, j, rfl, -, rfl, -⟩
    · cases ht
    · cases ht
    · rw [List.mem_singleton.1 hi]
  cases a with
  | attack a =>
    have ht : a.targeting = .declared := ha _ rfl
    rw [reach, ht] at h
    exact hdeclared h
  | burn amount | poison amount => exact hdeclared h
  | defend amount =>
    unfold reach at h
    dsimp only at h
    split at h
    · exact hdeclared h
    · cases h
      exact List.forall_mem_nil _
  | _ =>
    cases h
    exact List.forall_mem_nil _

theorem eq_declared_of_mem_targeting? {actions : List Action}
    (h : ∀ a : Attack, .attack a ∈ actions → a.area = false ∧ a.random = false) {a : Action}
    (ha : a ∈ actions) : ∀ t ∈ a.targeting?, t = .declared := by
  intro t ht
  cases a with
  | attack a =>
    obtain ⟨harea, hrandom⟩ := h a ha
    obtain rfl := Option.some.inj ht
    simp [Attack.targeting, harea, hrandom]
  | _ => cases ht

namespace Combat

variable {σ : Type} {target : Option Nat}

/-- What a combat may become: the actor is tended, and opponents are worn down. -/
structure Spares (target : Option Nat) (c c' : Combat σ) : Prop where
  actor : c.actor.Tended c'.actor
  pool (i : Nat) : Option.Rel (Fighter.Worn (target = some i)) c.pool[i]? c'.pool[i]?

namespace Spares

variable {c c' c'' : Combat σ}

theorem of_pool_eq (hactor : c.actor.Tended c'.actor) (hpool : c'.pool = c.pool) :
    c.Spares target c' := by
  refine ⟨hactor, fun i => ?_⟩
  rw [hpool]
  cases c.pool[i]? with
  | none => exact .none
  | some f => exact .some (.refl _ f)

theorem refl (target : Option Nat) (c : Combat σ) : c.Spares target c :=
  .of_pool_eq (.refl c.actor) rfl

theorem trans (h : c.Spares target c') (h' : c'.Spares target c'') : c.Spares target c'' := by
  refine ⟨h.actor.trans h'.actor, fun i => ?_⟩
  have hi := h.pool i
  have hi' := h'.pool i
  generalize c.pool[i]? = x at hi
  generalize c'.pool[i]? = y at hi hi'
  generalize c''.pool[i]? = z at hi'
  cases hi with
  | none =>
    cases hi'
    exact .none
  | some hworn =>
    cases hi' with
    | some hworn' => exact .some (hworn.trans hworn')

theorem cue (h : c.Spares target c') (q : Cue) : c.Spares target (c'.cue q) := ⟨h.actor, h.pool⟩

end Spares

theorem spares_onPlaces (c : Combat σ) {places : List Nat} (hplaces : ∀ i ∈ places, target = some i)
    {gain : Fighter → Fighter} (hgain : ∀ f, Fighter.Worn True f (gain f)) :
    c.Spares target (c.onPlaces places gain) := by
  refine ⟨.refl c.actor, fun i => ?_⟩
  rw [getElem?_onPlaces]
  cases c.pool[i]? with
  | none => exact .none
  | some f =>
    refine .some ?_
    by_cases hi : i ∈ places
    · rw [eq_true (hplaces i hi)]
      exact .iterate hgain _ f
    · rw [List.count_eq_zero_of_not_mem hi]
      exact .refl _ f

theorem spares_strike {c : Combat σ} (h : c.Sound) (damage : Amount) (i : Nat) :
    c.Spares target (c.strike damage i) := by
  cases hi : c.pool[i]? with
  | none =>
    rw [strike_of_none hi]
    exact .refl target c
  | some f =>
    refine ⟨?_, fun j => ?_⟩
    · rw [actor_strike_of_some hi]
      exact Fighter.tended_clash f c.actor damage .attack
    · rw [pool_strike_of_some hi]
      by_cases hj : i = j
      · subst hj
        rw [hi, List.getElem?_set_self (List.getElem?_eq_some_iff.1 hi).1, Fighter.struck_clash]
        exact .some (Fighter.worn_wound (h.pool f (List.mem_of_getElem? hi)) _ damage .attack)
      · rw [List.getElem?_set_ne hj]
        exact (Spares.refl target c).pool j

theorem spares_strikes {c : Combat σ} (h : c.Sound) (damage : Amount) (places : List Nat) :
    c.Spares target (places.foldl (strike damage) c) := by
  induction places generalizing c with
  | nil => exact .refl target c
  | cons i places ih => exact (spares_strike h damage i).trans (ih (h.strike damage i))

/-- What is not an attack may only reach the declared target. -/
theorem spares_carryOut {c : Combat σ} (h : c.Sound) {a : Action} {places : List Nat}
    (hplaces : a.targeting? = none → ∀ i ∈ places, target = some i) (origin : Origin) :
    c.Spares target (c.carryOut a origin places) := by
  cases a with
  | attack a =>
    show c.Spares target (c.attack a.amount origin.slot places)
    unfold attack
    dsimp only
    have hcue : c.Spares target (c.cue (.strike origin.slot)) := (Spares.refl target c).cue _
    split
    · exact hcue
    · exact hcue.trans (spares_strikes (h.cue _) _ places)
  | defend amount =>
    unfold carryOut
    dsimp only
    split
    · exact (c.spares_onPlaces (hplaces rfl) fun f => f.worn_gainDefense amount).cue _
    · exact .of_pool_eq (c.actor.tended_gainDefense amount) rfl
  | burn amount => exact (c.spares_onPlaces (hplaces rfl) fun f => f.worn_gainBurn amount).cue _
  | poison amount => exact (c.spares_onPlaces (hplaces rfl) fun f => f.worn_gainPoison amount).cue _
  | heal amount => exact .of_pool_eq (Fighter.tended_heal h.actor amount) rfl
  | spike amount => exact .of_pool_eq (c.actor.tended_gainSpike amount) rfl
  | draw count => exact .of_pool_eq (.refl c.actor) rfl
  | cleanse => exact .of_pool_eq (Fighter.tended_cleanse h.actor) rfl
  | buff stat amount => exact .of_pool_eq (c.actor.tended_buff stat amount) rfl

/-! ## Those that are not reached -/

theorem getElem?_pool_strikes (c : Combat σ) (damage : Amount) {places : List Nat} {i : Nat}
    (hi : i ∉ places) : (places.foldl (strike damage) c).pool[i]? = c.pool[i]? := by
  induction places generalizing c with
  | nil => rfl
  | cons j places ih =>
    obtain ⟨hne, hi⟩ := not_or.1 (List.mem_cons.not.1 hi)
    rw [List.foldl_cons, ih _ hi]
    cases hj : c.pool[j]? with
    | none => rw [strike_of_none hj]
    | some f => rw [pool_strike_of_some hj, List.getElem?_set_ne (Ne.symm hne)]

theorem getElem?_pool_onPlaces (c : Combat σ) (f : Fighter → Fighter) {places : List Nat} {i : Nat}
    (hi : i ∉ places) : (c.onPlaces places f).pool[i]? = c.pool[i]? := by
  rw [getElem?_onPlaces, List.count_eq_zero_of_not_mem hi, Function.iterate_zero, Option.map_id, id]

/-- Whoever an action does not reach stays as it is. -/
theorem getElem?_pool_carryOut (c : Combat σ) (a : Action) (origin : Origin) {places : List Nat}
    {i : Nat} (hi : i ∉ places) : (c.carryOut a origin places).pool[i]? = c.pool[i]? := by
  cases a with
  | attack a =>
    show (c.attack a.amount origin.slot places).pool[i]? = _
    unfold attack
    dsimp only
    split
    · rfl
    · exact getElem?_pool_strikes (c.cue _) _ hi
  | defend amount =>
    unfold carryOut
    dsimp only
    split
    · exact c.getElem?_pool_onPlaces _ hi
    · rfl
  | burn amount | poison amount => exact c.getElem?_pool_onPlaces _ hi
  | _ => rfl

/-! ## Plans -/

variable [Chance σ]

theorem length_pool_enact (c : Combat σ) (p : Plan) (target : Option Nat) :
    (c.enact p target).2.pool.length = c.pool.length :=
  enact_keeps (I := fun c' => c'.pool.length = c.pool.length)
    (fun _ _ _ _ hc hr => (length_pool_round hr).trans hc) rfl

theorem Spares.round {c c' : Combat σ} (h : c.Sound) {origin : Origin} {a : Action}
    (hr : c.round origin target a = .ok c') : c.Spares target c' := by
  obtain ⟨places, source, hreach, rfl⟩ := round_eq_ok_iff.1 hr
  have hsourced : ({ c with source } : Combat σ).Sound := { h with }
  have hspares := spares_carryOut hsourced (a := a)
    (fun ha => Action.eq_target_of_reach hreach (by rw [ha]; exact nofun)) origin
  exact ⟨hspares.actor, hspares.pool⟩

end Combat

variable {σ : Type} [Chance σ]

/-- Whatever a plan says, and however far it gets: the pool keeps its size, and every opponent its
ceiling, spikes and buffs, and none gains life; only the declared one may gain burn, poison or
defense. The actor keeps its ceiling and gains neither burn nor poison. Without an attack on
everyone or at random, nobody changes but the actor and the declared opponent. -/
theorem enact_spares (c : Combat σ) (h : c.Sound) (p : Plan) (target : Option Nat) :
    (c.enact p target).2.pool.length = c.pool.length ∧
      c.Spares target (c.enact p target).2 ∧
      ((∀ a : Attack, .attack a ∈ p.actions → a.area = false ∧ a.random = false) →
        ∀ i, target ≠ some i → (c.enact p target).2.pool[i]? = c.pool[i]?) := by
  refine ⟨c.length_pool_enact p target, ?_, fun hattacks i hi => ?_⟩
  · -- What a round spares depends on its combat being sound, so both are kept together.
    have hround : ∀ a ∈ p.actions, ∀ c₁ c₂, c₁.Sound ∧ c.Spares target c₁ →
        c₁.round p.origin target a = .ok c₂ → c₂.Sound ∧ c.Spares target c₂ :=
      fun _ _ _ _ ⟨hsound, hspares⟩ hr => ⟨hsound.round hr, hspares.trans (.round hsound hr)⟩
    exact (Combat.enact_keeps hround ⟨h, .refl target c⟩).2
  · refine Combat.enact_keeps (I := fun c' => c'.pool[i]? = c.pool[i]?)
      (fun a ha c₁ c₂ hc hr => ?_) rfl
    obtain ⟨places, source, hreach, rfl⟩ := Combat.round_eq_ok_iff.1 hr
    have hplaces := Action.eq_target_of_reach hreach (eq_declared_of_mem_targeting? hattacks ha)
    rw [Combat.getElem?_pool_carryOut _ a p.origin fun hmem => hi (hplaces i hmem)]
    exact hc

/-- A rat is declared, poisoned and struck; two strikes at random fall on a hedgehog. -/
theorem enact_spares_scripted :
    let hedgehog : Fighter := { maxLife := 10, life := 8, defense := 3, spike := 2, poison := 1 }
    let rat : Fighter := { maxLife := 5, life := 5 }
    let c : Combat Script :=
      { actor := { maxLife := 30, life := 20, burn := 4, poison := 6 }, pool := [hedgehog, rat]
        source := { indices := #[0] } }
    let p : Plan := .bare [.poison 2, .heal 3, .attack { amount := 4, random := true, times := 2 },
      .attack { amount := 4 }, .cleanse]
    c.Sound ∧ (c.enact p (some 1)).1 = .ok 6 ∧ (c.enact p (some 1)).2.pool.length = 2 ∧
      c.Spares (some 1) (c.enact p (some 1)).2 ∧
      Option.Rel (Fighter.Worn False) (some hedgehog) (c.enact p (some 1)).2.pool[0]? := by
  intro hedgehog rat c p
  have hsound : c.Sound := ⟨by constructor <;> decide, by
    intro f hf
    rcases List.mem_pair.1 hf with rfl | rfl <;> constructor <;> decide⟩
  have hok : (c.enact p (some 1)).1 = .ok 6 := by
    rw [Combat.enact_eq_course]
    decide +kernel
  obtain ⟨hlength, hspares, -⟩ := enact_spares c hsound p (some 1)
  have hpool := hspares.pool 0
  rw [show (some 1 = some 0) = False by decide] at hpool
  exact ⟨hsound, hok, hlength, hspares, hpool⟩

end Skirmish
