import Skirmish.Chance.Script
import Skirmish.Proofs.Combat.Sound
import Skirmish.Proofs.Fighter.Losses
import Skirmish.Proofs.Plan

/-!
# Whole attacks

An attack strikes the places of its `trail`, round after round. `c.Endures damage places c'` says
what blows of `damage` at some places make of a combat: every opponent bears its share of the
blows, and the actor the stings that answer them. Blows change neither the actor's attack buff nor
anybody's spikes, so they add up over the places of a round and over rounds (`Endures.trans`), and
the whole attack is one sum for each fighter.
-/

namespace Skirmish

variable {σ : Type}

/-! ## Trails -/

section
variable [Chance σ]

/-- The indices of some draws, in order. -/
def Chance.indices (size : Nat) : Nat → σ → List Nat
  | 0, _ => []
  | k + 1, source => (Chance.index size source).1 :: indices size k (Chance.index size source).2

/-- The places that some rounds of an attack strike, in order, up to a round that fails. -/
def Targeting.trail (t : Targeting) (size : Nat) (declared : Option Nat) : Nat → σ → List Nat
  | 0, _ => []
  | k + 1, source =>
    match t.recipients size declared source with
    | .error _ => []
    | .ok (places, source) => places ++ t.trail size declared k source

/-- How often an attack strikes a place. -/
def Attack.hits (a : Attack) (size : Nat) (declared : Option Nat) (source : σ) (i : Nat) : Nat :=
  match a.targeting with
  | .everyone => if i < size then a.times.toNat else 0
  | .random => (Chance.indices size a.times.toNat source).count i
  | .declared => if declared = some i then a.times.toNat else 0

theorem count_trail_everyone {size : Nat} (hs : size ≠ 0) (declared : Option Nat) (i : Nat) :
    ∀ (k : Nat) (source : σ), (Targeting.everyone.trail size declared k source).count i =
      if i < size then k else 0
  | 0, source => by simp [Targeting.trail]
  | k + 1, source => by
    have hc : (List.range size).count i = if i < size then 1 else 0 := by
      rw [List.nodup_range.count]
      simp only [List.mem_range]
    simp only [Targeting.trail, Targeting.recipients, hs, if_false, List.count_append, hc,
      count_trail_everyone hs declared i k source]
    split <;> omega

theorem trail_random {size : Nat} (hs : size ≠ 0) (declared : Option Nat) :
    ∀ (k : Nat) (source : σ),
      Targeting.random.trail size declared k source = Chance.indices size k source
  | 0, _ => rfl
  | k + 1, source => by
    simp only [Targeting.trail, Targeting.recipients, hs, if_false, Chance.indices,
      trail_random hs declared k, List.singleton_append]

theorem trail_declared {size j : Nat} (hj : j < size) :
    ∀ (k : Nat) (source : σ),
      Targeting.declared.trail size (some j) k source = List.replicate k j
  | 0, _ => rfl
  | k + 1, source => by
    simp only [Targeting.trail, Targeting.recipients, hj, if_true, trail_declared hj k,
      List.singleton_append, List.replicate_succ]

/-- An attack that reaches anybody strikes everywhere as often as it should. -/
theorem count_trail {a : Attack} {size : Nat} {declared : Option Nat} {source source' : σ}
    {places : List Nat}
    (h : a.targeting.recipients size declared source = .ok (places, source')) (i : Nat) :
    (a.targeting.trail size declared a.times.toNat source).count i =
      a.hits size declared source i := by
  unfold Attack.hits
  rcases Targeting.cases_recipients h with ⟨ht, hs, -⟩ | ⟨ht, hs, -⟩ | ⟨ht, j, rfl, hj, -⟩
  · rw [ht]
    exact count_trail_everyone hs declared i _ source
  · rw [ht]
    exact congrArg (List.count i) (trail_random hs declared _ source)
  · rw [ht, trail_declared hj, List.count_replicate]
    simp only [beq_iff_eq, Option.some.injEq]

end

/-! ## Blows -/

namespace Combat

/-- Nobody's defense is negative. -/
structure Guarded (c : Combat σ) : Prop where
  actor : 0 ≤ c.actor.defense
  pool : ∀ f ∈ c.pool, 0 ≤ f.defense

/-- The sting of the opponent at a place; outside the pool there is none. -/
def stingAt (c : Combat σ) (i : Nat) : Int := (c.pool[i]?.map Fighter.sting).getD 0

theorem stingAt_nonneg (c : Combat σ) (i : Nat) : 0 ≤ c.stingAt i := by
  unfold stingAt
  cases c.pool[i]? with
  | none => exact Int.le_refl 0
  | some f => exact f.sting_nonneg

theorem sum_stingAt_nonneg (c : Combat σ) (places : List Nat) :
    0 ≤ (places.map c.stingAt).sum := by
  induction places with
  | nil => exact Int.le_refl 0
  | cons i places ih =>
    rw [List.map_cons, List.sum_cons]
    exact Int.add_nonneg (c.stingAt_nonneg i) ih

/-- Stings add up place by place, or opponent by opponent. -/
theorem sum_stingAt (c : Combat σ) (places : List Nat) :
    (places.map c.stingAt).sum =
      ∑ i : Fin c.pool.length, (places.count i.val : Int) * c.pool[i].sting := by
  have hrange : (places.map c.stingAt).sum =
      ∑ i ∈ Finset.range c.pool.length, (places.count i : Int) * c.stingAt i := by
    induction places with
    | nil => simp
    | cons j places ih =>
      simp only [List.map_cons, List.sum_cons, ih, List.count_cons, Nat.cast_add, add_mul,
        Finset.sum_add_distrib, beq_iff_eq, Nat.cast_ite, Nat.cast_one, Nat.cast_zero, ite_mul,
        one_mul, zero_mul, Finset.sum_ite_eq, Finset.mem_range]
      rw [add_comm]
      congr 1
      split
      · rfl
      · rename_i hj
        simp [stingAt, Nat.le_of_not_lt hj]
  rw [hrange, Finset.sum_range]
  refine Finset.sum_congr rfl fun i _ => ?_
  simp [stingAt]

structure Endures (damage : Int) (places : List Nat) (c c' : Combat σ) : Prop where
  actor : c.actor.Bears (places.map c.stingAt).sum c'.actor
  pool (i : Nat) : Option.Rel (Fighter.Bears (places.count i * damage)) c.pool[i]? c'.pool[i]?

namespace Endures

theorem guarded {damage : Int} {places : List Nat} {c c' : Combat σ}
    (h : c.Endures damage places c') : c'.Guarded := by
  refine ⟨h.actor.defense_nonneg, fun f hf => ?_⟩
  obtain ⟨i, hi⟩ := List.mem_iff_getElem?.1 hf
  have hp := h.pool i
  rw [hi] at hp
  generalize c.pool[i]? = x at hp
  cases hp with
  | some hb => exact hb.defense_nonneg

theorem length_pool {damage : Int} {places : List Nat} {c c' : Combat σ}
    (h : c.Endures damage places c') : c'.pool.length = c.pool.length := by
  refine Nat.le_antisymm ?_ ?_
  · have hp := h.pool c.pool.length
    rw [List.getElem?_eq_none (Nat.le_refl _)] at hp
    generalize hx : c'.pool[c.pool.length]? = x at hp
    cases hp
    exact List.getElem?_eq_none_iff.1 hx
  · have hp := h.pool c'.pool.length
    rw [List.getElem?_eq_none (l := c'.pool) (Nat.le_refl _)] at hp
    generalize hx : c.pool[c'.pool.length]? = x at hp
    cases hp
    exact List.getElem?_eq_none_iff.1 hx

/-- Blows leave everybody's spikes alone. -/
theorem stingAt {damage : Int} {places : List Nat} {c c' : Combat σ}
    (h : c.Endures damage places c') : c'.stingAt = c.stingAt := by
  funext i
  have hp := h.pool i
  unfold Combat.stingAt
  generalize c.pool[i]? = x at hp
  generalize c'.pool[i]? = y at hp
  cases hp with
  | none => rfl
  | some hb => exact Fighter.sting_congr hb.spike hb.buffs

theorem nil {c : Combat σ} (h : c.Guarded) (damage : Int) : c.Endures damage [] c := by
  refine ⟨.zero h.actor, fun i => ?_⟩
  rw [List.count_nil, Nat.cast_zero, zero_mul]
  cases hi : c.pool[i]? with
  | none => exact .none
  | some f => exact .some (.zero (h.pool f (List.mem_of_getElem? hi)))

theorem trans {damage : Int} (hd : 0 ≤ damage) {places places' : List Nat} {c c' c'' : Combat σ}
    (h : c.Guarded) (h₁ : c.Endures damage places c') (h₂ : c'.Endures damage places' c'') :
    c.Endures damage (places ++ places') c'' := by
  refine ⟨?_, fun i => ?_⟩
  · rw [List.map_append, List.sum_append]
    have ha := h₂.actor
    rw [h₁.stingAt] at ha
    exact .trans (c.sum_stingAt_nonneg places') h.actor h₁.actor ha
  · have hp₁ := h₁.pool i
    have hp₂ := h₂.pool i
    have hg : ∀ f, c.pool[i]? = some f → 0 ≤ f.defense :=
      fun f hf => h.pool f (List.mem_of_getElem? hf)
    rw [List.count_append, Nat.cast_add, add_mul]
    generalize c.pool[i]? = x at hp₁ hg
    generalize c'.pool[i]? = y at hp₁ hp₂
    generalize c''.pool[i]? = z at hp₂
    cases hp₁ with
    | none => cases hp₂; exact .none
    | some hb₁ =>
      cases hp₂ with
      | some hb₂ =>
        exact .some (.trans (Int.mul_nonneg (Int.natCast_nonneg _) hd) (hg _ rfl) hb₁ hb₂)

end Endures

theorem endures_strike {c : Combat σ} (h : c.Guarded) {damage : Amount} (hd : 0 < damage)
    (i : Nat) : c.Endures damage.toInt [i] (c.strike damage i) := by
  have hnil := Endures.nil h damage.toInt
  cases hi : c.pool[i]? with
  | none =>
    rw [strike_of_none hi]
    refine ⟨?_, fun j => ?_⟩
    · rw [List.map_singleton, List.sum_singleton, stingAt, hi]
      exact hnil.actor
    · by_cases hj : i = j
      · subst hj
        rw [hi]
        exact .none
      · rw [List.count_singleton, if_neg (by simpa using hj)]
        exact hnil.pool j
  | some f =>
    have hlt := (List.getElem?_eq_some_iff.1 hi).1
    obtain ⟨hs, ha⟩ := Fighter.bears_clash (h.pool f (List.mem_of_getElem? hi)) h.actor hd
    refine ⟨?_, fun j => ?_⟩
    · rw [List.map_singleton, List.sum_singleton, stingAt, hi, actor_strike_of_some hi]
      exact ha
    · rw [pool_strike_of_some hi]
      by_cases hj : i = j
      · subst hj
        rw [hi, List.getElem?_set_self hlt, List.count_singleton_self, Nat.cast_one, one_mul]
        exact .some hs
      · rw [List.getElem?_set_ne hj, List.count_singleton, if_neg (by simpa using hj)]
        exact hnil.pool j

theorem endures_strikes {damage : Amount} (hd : 0 < damage) (places : List Nat) {c : Combat σ}
    (h : c.Guarded) : c.Endures damage.toInt places (places.foldl (strike damage) c) := by
  induction places generalizing c with
  | nil => exact .nil h _
  | cons i places ih =>
    have hs := endures_strike h hd i
    rw [List.foldl_cons]
    exact .trans (Int.le_of_lt (Saturating.pos_iff.1 hd)) h hs (ih hs.guarded)

/-- A round of strikes, if the attack strikes at all. -/
theorem endures_attack {c : Combat σ} (h : c.Guarded) {amount : Amount}
    (hd : 0 < Saturating.add amount c.actor.buffs.attack) (slot : Option Slot)
    (places : List Nat) :
    c.Endures (Saturating.add amount c.actor.buffs.attack).toInt places
      (c.attack amount slot places) := by
  unfold attack
  have hn : ¬ Saturating.add amount c.actor.buffs.attack < 1 := by
    rw [Int64.lt_iff_toInt_lt, Int64.toInt_one]
    have := Saturating.pos_iff.1 hd
    omega
  simp only [hn, if_false]
  have hc : (c.cue (.strike slot)).Guarded := ⟨h.actor, h.pool⟩
  obtain ⟨hactor, hpool⟩ := endures_strikes hd places hc
  exact ⟨hactor, hpool⟩

/-! ## Guarded combats -/

theorem Guarded.onActor {c : Combat σ} (h : c.Guarded) {f : Fighter → Fighter}
    (hf : ∀ g : Fighter, 0 ≤ g.defense → 0 ≤ (f g).defense) : (c.onActor f).Guarded :=
  ⟨hf _ h.actor, h.pool⟩

theorem Guarded.onPlaces {c : Combat σ} (h : c.Guarded) {f : Fighter → Fighter}
    (hf : ∀ g : Fighter, 0 ≤ g.defense → 0 ≤ (f g).defense) (places : List Nat) :
    (c.onPlaces places f).Guarded :=
  ⟨h.actor, forall_mem_onPlaces h.pool hf places⟩

theorem Guarded.cue {c : Combat σ} (h : c.Guarded) (q : Cue) : (c.cue q).Guarded :=
  ⟨h.actor, h.pool⟩

theorem Guarded.attack {c : Combat σ} (h : c.Guarded) (amount : Amount) (slot : Option Slot)
    (places : List Nat) : (c.attack amount slot places).Guarded := by
  unfold Combat.attack
  dsimp only
  split
  · exact h.cue _
  · rename_i hd
    exact (endures_strikes (Saturating.pos_of_not_lt_one hd) places (h.cue _)).guarded

/-- No action makes anybody's defense negative. -/
theorem Guarded.carryOut {c : Combat σ} (h : c.Guarded) (a : Action) (origin : Origin)
    (places : List Nat) : (c.carryOut a origin places).Guarded := by
  cases a with
  | attack a => exact h.attack _ _ _
  | defend n =>
    unfold Combat.carryOut
    dsimp only
    split
    · exact (h.onPlaces (fun g hg => Fighter.defense_gainDefense_nonneg hg n) places).cue _
    · exact (h.onActor fun g hg => Fighter.defense_gainDefense_nonneg hg n).cue _
  | heal n => exact (h.cue _).onActor fun g hg => (g.defense_heal n).symm ▸ hg
  | burn n => exact (h.onPlaces (fun g hg => (g.defense_gainBurn n).symm ▸ hg) places).cue _
  | poison n => exact (h.onPlaces (fun g hg => (g.defense_gainPoison n).symm ▸ hg) places).cue _
  | spike n => exact (h.cue _).onActor fun g hg => (g.defense_gainSpike n).symm ▸ hg
  | draw n => exact ⟨h.actor, h.pool⟩
  | cleanse | buff s n => exact ⟨h.actor, h.pool⟩

/-! ## The whole attack -/

section
variable [Chance σ] {origin : Origin} {target : Option Nat} {a : Attack}

theorem endures_course (left : List Action) {k n : Nat} {c : Combat σ} (h : c.Guarded)
    (hd : 0 < Saturating.add a.amount c.actor.buffs.attack)
    (hok : (course (round origin target) (List.replicate k (.attack a, left)) c).report = .ok n) :
    c.Endures (Saturating.add a.amount c.actor.buffs.attack).toInt
      (a.targeting.trail c.pool.length target k c.source)
      (course (round origin target) (List.replicate k (.attack a, left)) c).state := by
  induction k generalizing c n with
  | zero => exact .nil h _
  | succ k ih =>
    rw [List.replicate_succ] at hok ⊢
    cases hr : round origin target (.attack a) c with
    | error fault =>
      rw [course_cons_of_error hr] at hok
      cases hok
    | ok c' =>
      rw [course_cons_of_ok hr] at hok ⊢
      obtain ⟨m, hok', -⟩ := Course.exists_of_report_after hok
      obtain ⟨places, source, hre, rfl⟩ := round_eq_ok_iff.1 hr
      have hs : ({ c with source } : Combat σ).Guarded := ⟨h.actor, h.pool⟩
      obtain ⟨hactor, hpool⟩ := endures_attack hs hd origin.slot places
      have h₁ : c.Endures (Saturating.add a.amount c.actor.buffs.attack).toInt places
        ({ c with source }.carryOut (.attack a) origin places) := ⟨hactor, hpool⟩
      generalize hc' : { c with source }.carryOut (.attack a) origin places = c' at h₁ hok' ⊢
      have hsource : c'.source = source := by
        rw [← hc']
        exact source_attack _ _ _ _
      -- the next round has the same damage and the same places to choose from
      have h₂ := ih h₁.guarded (by rw [h₁.actor.buffs]; exact hd) hok'
      rw [h₁.actor.buffs, h₁.length_pool, hsource] at h₂
      rw [Targeting.trail, show a.targeting.recipients c.pool.length target c.source = _ from hre]
      exact .trans (Int.le_of_lt (Saturating.pos_iff.1 hd)) h h₁ h₂

/-- Strikes of less than one leave every fighter alone. -/
theorem course_of_harmless (left : List Action) (k : Nat) {c : Combat σ}
    (hd : Saturating.add a.amount c.actor.buffs.attack < 1) :
    let c' := (course (round origin target) (List.replicate k (.attack a, left)) c).state
    c'.actor = c.actor ∧ c'.pool = c.pool := by
  refine course_keeps (I := fun c' : Combat σ => c'.actor = c.actor ∧ c'.pool = c.pool) _ ?_
    ⟨rfl, rfl⟩
  rintro due hdue c₁ c₂ ⟨hactor, hpool⟩ hr
  obtain rfl := (List.mem_replicate.1 hdue).2
  obtain ⟨places, source, -, rfl⟩ := round_eq_ok_iff.1 hr
  have hd' : Saturating.add a.amount c₁.actor.buffs.attack < 1 := hactor ▸ hd
  simp only [carryOut, attack, hd', if_true]
  exact ⟨hactor, hpool⟩

theorem perform_attack_eq_course (htimes : 1 ≤ a.times.toNat) (c : Combat σ) :
    c.perform [.attack a] target =
      ((course (round {} target) (List.replicate a.times.toNat (.attack a, [])) c).report,
        (course (round {} target) (List.replicate a.times.toNat (.attack a, [])) c).state) := by
  have hsteps : (Action.attack a).steps = a.times.toNat := Nat.max_eq_right htimes
  have hdues : (Plan.bare [.attack a]).dues = List.replicate a.times.toNat (.attack a, []) := by
    show List.replicate (Action.attack a).steps _ ++ [] = _
    rw [hsteps, List.append_nil]
  rw [show c.perform [.attack a] target = c.enact (.bare [.attack a]) target from rfl,
    enact_eq_course, courseOf, hdues]
  rfl

/-- An attack that succeeds has found somebody to strike. -/
theorem exists_recipients (left : List Action) {k n : Nat} (hk : 1 ≤ k) {c : Combat σ}
    (hok : (course (round origin target) (List.replicate k (.attack a, left)) c).report = .ok n) :
    ∃ places source,
      a.targeting.recipients c.pool.length target c.source = .ok (places, source) := by
  obtain ⟨k, rfl⟩ : ∃ k', k = k' + 1 := ⟨k - 1, by omega⟩
  rw [List.replicate_succ] at hok
  cases hr : round origin target (.attack a) c with
  | error fault =>
    rw [course_cons_of_error hr] at hok
    cases hok
  | ok c₁ =>
    obtain ⟨places, source, hre, -⟩ := round_eq_ok_iff.1 hr
    exact ⟨places, source, hre⟩

/-- An attack of at least one round that succeeds, carried out on its own. Every opponent bears the
damage of all blows that hit it, and the actor the stings that answer them. -/
theorem perform_attack {c c' : Combat σ} {n : Nat} (htimes : 1 ≤ a.times.toNat)
    (hactor : 0 ≤ c.actor.defense) (hpool : ∀ f ∈ c.pool, 0 ≤ f.defense)
    (h : c.perform [.attack a] target = (.ok n, c')) :
    let damage := Saturating.clamp (a.amount.toInt + c.actor.buffs.attack.toInt)
    let hits := a.hits c.pool.length target c.source
    (∀ i, (a.targeting.trail c.pool.length target a.times.toNat c.source).count i = hits i) ∧
      (damage < 1 → c'.actor = c.actor ∧ c'.pool = c.pool) ∧
      (1 ≤ damage →
        (∀ i : Nat, Option.Rel (Fighter.Bears (hits i * damage)) c.pool[i]? c'.pool[i]?) ∧
        c.actor.Bears (∑ i : Fin c.pool.length, (hits i : Int) * c.pool[i].sting) c'.actor) := by
  intro damage hits
  have hdamage : (Saturating.add a.amount c.actor.buffs.attack).toInt = damage :=
    Saturating.toInt_add _ _
  rw [perform_attack_eq_course htimes] at h
  obtain ⟨hok, rfl⟩ := Prod.mk.inj h
  obtain ⟨places, source, hre⟩ := exists_recipients [] htimes hok
  have hcount := count_trail hre
  refine ⟨hcount, fun hlt => ?_, fun hle => ?_⟩
  · refine course_of_harmless [] a.times.toNat ?_
    rw [Int64.lt_iff_toInt_lt, hdamage]
    exact hlt
  · have hpos : 0 < Saturating.add a.amount c.actor.buffs.attack := by
      rw [Saturating.pos_iff, hdamage]
      exact hle
    have he := endures_course [] ⟨hactor, hpool⟩ hpos hok
    rw [hdamage] at he
    refine ⟨fun i => ?_, ?_⟩
    · rw [show hits i = _ from (hcount i).symm]
      exact he.pool i
    · have ha := he.actor
      rw [sum_stingAt] at ha
      simp only [hcount] at ha
      exact ha

end

/-- Three strikes of five at random: one meets spikes of three, and two meet no defense. -/
theorem perform_attack_scripted :
    let a : Attack := { amount := 3, random := true, times := 3 }
    let actor : Fighter :=
      { maxLife := 30, life := 30, defense := 2, buffs := { attack := 2 } }
    let hedgehog : Fighter :=
      { maxLife := 10, life := 10, defense := 3, spike := 2, buffs := { spike := 1 } }
    let rat : Fighter := { maxLife := 5, life := 5 }
    let c : Combat Script :=
      { actor := actor, pool := [hedgehog, rat], source := { indices := #[1, 0, 1] } }
    1 ≤ a.times.toNat ∧ 0 ≤ c.actor.defense ∧ (∀ f ∈ c.pool, 0 ≤ f.defense) ∧
      ∃ c', c.perform [.attack a] none = (.ok 3, c') ∧
        actor.Bears 3 c'.actor ∧
        Option.Rel (Fighter.Bears 5) (some hedgehog) c'.pool[0]? ∧
        Option.Rel (Fighter.Bears 10) (some rat) c'.pool[1]? := by
  intro a actor hedgehog rat c
  have htimes : 1 ≤ a.times.toNat := by decide
  have hactor : 0 ≤ c.actor.defense := by decide
  have hpool : ∀ f ∈ c.pool, 0 ≤ f.defense := by decide
  have h : (c.perform [.attack a] none).1 = .ok 3 := by
    show (c.enact (.bare [.attack a]) none).1 = _
    rw [enact_eq_course]
    decide +kernel
  have h' : c.perform [.attack a] none = (.ok 3, (c.perform [.attack a] none).2) :=
    Prod.ext h rfl
  obtain ⟨-, -, hb⟩ := perform_attack htimes hactor hpool h'
  obtain ⟨hp, ha⟩ := hb (by decide +kernel)
  have hp₀ := hp 0
  have hp₁ := hp 1
  rw [show ∑ i : Fin c.pool.length, (a.hits c.pool.length none c.source i : Int) * c.pool[i].sting
    = 3 by decide +kernel] at ha
  rw [show (a.hits c.pool.length none c.source 0 : Int) * Saturating.clamp
    (a.amount.toInt + c.actor.buffs.attack.toInt) = 5 by decide +kernel] at hp₀
  rw [show (a.hits c.pool.length none c.source 1 : Int) * Saturating.clamp
    (a.amount.toInt + c.actor.buffs.attack.toInt) = 10 by decide +kernel] at hp₁
  exact ⟨htimes, hactor, hpool, _, h', ha, hp₀, hp₁⟩

end Combat

end Skirmish
