import Skirmish.Proofs.Boundaries
import Skirmish.Proofs.Combat.Cues
import Skirmish.Proofs.Feasible

/-!
# Cues and draws of a plan

What a plan shows is known from little: `Action.shows` gives the cues of one step from the attack
buff before it, the opponents that bristle and the places it struck. Nobody in the pool gains or
loses spikes while a plan is carried out, and the actor's attack buff is the one that the actions
behind have left (`whetted`). So the cues of a plan are those of its steps one after another
(`Along.cues_run`), its draws are the counts of its actions (`draws_run`), and neither asks for
anybody's life or other counters.
-/

namespace Skirmish

/-! ## Spikes -/

/-- The fighter answers blows: it has spikes, and their buff leaves something of them. -/
def Fighter.bristles (f : Fighter) : Bool :=
  0 < f.spike.toInt ∧ 0 < f.spike.toInt + f.buffs.spike.toInt

theorem Fighter.bristles_iff (f : Fighter) : f.bristles ↔ 0 < f.sting := by
  unfold bristles sting
  rw [decide_eq_true_iff]
  have hpos : 0 < Saturating.clamp (f.spike.toInt + f.buffs.spike.toInt) ↔
      0 < f.spike.toInt + f.buffs.spike.toInt := by
    unfold Saturating.clamp
    omega
  dsimp only
  split
  · rename_i h
    exact iff_of_true ⟨h.1, hpos.1 h.2⟩ h.2
  · rename_i h
    exact iff_of_false (fun hb => h ⟨hb.1, hpos.2 hb.2⟩) (Int.lt_irrefl 0)

namespace Combat

variable {σ : Type}

/-- Somebody at the place answers blows. -/
def bristlesAt (c : Combat σ) (i : Nat) : Bool := c.pool[i]?.any Fighter.bristles

theorem bristlesAt_iff (c : Combat σ) (i : Nat) : c.bristlesAt i ↔ 0 < c.stingAt i := by
  unfold bristlesAt stingAt
  cases c.pool[i]? with
  | none => exact iff_of_false nofun (Int.lt_irrefl 0)
  | some f => exact f.bristles_iff

theorem stingAt_strikes (places : List Nat) (c : Combat σ) (damage : Amount) :
    (places.foldl (strike damage) c).stingAt = c.stingAt := by
  induction places generalizing c with
  | nil => rfl
  | cons i places ih => rw [List.foldl_cons, ih, stingAt_strike]

theorem stingAt_onPlaces (c : Combat σ) (places : List Nat) {gain : Fighter → Fighter}
    (h : ∀ f, (gain f).sting = f.sting) : (c.onPlaces places gain).stingAt = c.stingAt := by
  have hiterate (k : Nat) (f : Fighter) : (gain^[k] f).sting = f.sting := by
    induction k generalizing f with
    | zero => rfl
    | succ k ih => exact (ih (gain f)).trans (h f)
  funext i
  unfold stingAt
  rw [getElem?_onPlaces, Option.map_map]
  congr 2
  exact funext (hiterate _)

/-- No action changes what blows are answered with. -/
theorem stingAt_carryOut (c : Combat σ) (a : Action) (origin : Origin) (places : List Nat) :
    (c.carryOut a origin places).stingAt = c.stingAt := by
  cases a with
  | attack a =>
    show (c.attack a.amount origin.slot places).stingAt = _
    unfold attack
    dsimp only
    split
    · rfl
    · exact stingAt_strikes places _ _
  | defend amount =>
    unfold carryOut
    dsimp only
    split
    · exact c.stingAt_onPlaces places fun f => f.sting_gainDefense amount
    · rfl
  | burn amount => exact c.stingAt_onPlaces places fun f => f.sting_gainBurn amount
  | poison amount => exact c.stingAt_onPlaces places fun f => f.sting_gainPoison amount
  | _ => rfl

theorem bristlesAt_carryOut (c : Combat σ) (a : Action) (origin : Origin) (places : List Nat) :
    (c.carryOut a origin places).bristlesAt = c.bristlesAt := by
  funext i
  rw [Bool.eq_iff_iff, bristlesAt_iff, bristlesAt_iff, stingAt_carryOut]

end Combat

/-! ## Steps -/

namespace Action

/-- The cues of a step, if blows at some places are answered. -/
def shows (a : Action) (slot : Option Slot) (bonus : Amount) (answered : Nat → Bool)
    (places : List Nat) : List Cue :=
  match a with
  | attack a =>
    .strike slot ::
      if Saturating.add a.amount bonus < 1 then []
      else List.replicate (places.countP answered) .spikes
  | defend _ => [.defend]
  | heal _ => [.heal]
  | burn _ => [.burn]
  | poison _ => [.poison]
  | spike _ => [.spikes]
  | draw count => [.draw count]
  | cleanse => [.cleanse]
  | buff stat _ => [.buff stat]

/-- The counts of cards to draw. -/
def counts : Action → List UInt32
  | draw count => [count]
  | _ => []

/-- The actor's attack buff behind the action. -/
def whet (a : Action) (bonus : Amount) : Amount :=
  match a with
  | buff .attack amount => Saturating.add bonus amount
  | _ => bonus

end Action

/-- The attack buff behind some actions. -/
def whetted (actions : List Action) (bonus : Amount) : Amount :=
  actions.foldl (fun bonus a => a.whet bonus) bonus

namespace Fighter

theorem buffs_gainDefense (f : Fighter) (amount : Amount) :
    (f.gainDefense amount).buffs = f.buffs := by
  unfold gainDefense
  split <;> rfl

theorem buffs_gainSpike (f : Fighter) (amount : Amount) : (f.gainSpike amount).buffs = f.buffs := by
  unfold gainSpike
  split <;> rfl

theorem buffs_heal (f : Fighter) (amount : Amount) : (f.heal amount).buffs = f.buffs := by
  unfold heal
  split <;> rfl

end Fighter

namespace Combat

variable {σ : Type} (c : Combat σ)

theorem buffs_actor_strikes (places : List Nat) (damage : Amount) :
    (places.foldl (strike damage) c).actor.buffs = c.actor.buffs := by
  induction places generalizing c with
  | nil => rfl
  | cons i places ih =>
    rw [List.foldl_cons, ih]
    cases hi : c.pool[i]? with
    | none => rw [strike_of_none hi]
    | some f =>
      rw [actor_strike_of_some hi]
      rcases f.attacker_clash c.actor damage .attack with heq | ⟨sting, heq⟩
      · rw [heq]
      · rw [heq, Fighter.buffs_wound]

theorem attackBuff_carryOut (a : Action) (origin : Origin) (places : List Nat) :
    (c.carryOut a origin places).actor.buffs.attack = a.whet c.actor.buffs.attack := by
  cases a with
  | attack a =>
    show (c.attack a.amount origin.slot places).actor.buffs.attack = _
    unfold attack
    dsimp only
    split
    · rfl
    · rw [buffs_actor_strikes]
      rfl
  | defend amount =>
    unfold carryOut
    dsimp only
    split
    · rfl
    · exact congrArg Buffs.attack (c.actor.buffs_gainDefense amount)
  | heal amount => exact congrArg Buffs.attack (c.actor.buffs_heal amount)
  | spike amount => exact congrArg Buffs.attack (c.actor.buffs_gainSpike amount)
  | buff stat amount => cases stat <;> rfl
  | _ => rfl

theorem cues_carryOut (a : Action) (origin : Origin) (places : List Nat) :
    (c.carryOut a origin places).cues.toList =
      c.cues.toList ++ a.shows origin.slot c.actor.buffs.attack c.bristlesAt places := by
  cases a with
  | attack a =>
    have hanswered : places.countP c.bristlesAt = places.countP fun i => 0 < c.stingAt i := by
      refine List.countP_congr fun i _ => ?_
      rw [bristlesAt_iff, decide_eq_true_iff]
    show (c.attack a.amount origin.slot places).cues.toList = _
    unfold attack Action.shows
    dsimp only
    split
    · exact Array.toList_push
    · rename_i hdamage
      rw [cues_strikes _ (Saturating.pos_of_not_lt_one hdamage), hanswered]
      show (c.cues.push _).toList ++ _ = _
      rw [Array.toList_push, List.append_assoc]
      rfl
  | defend amount =>
    unfold carryOut
    dsimp only
    split <;> exact Array.toList_push
  | _ => exact Array.toList_push

theorem draws_carryOut (a : Action) (origin : Origin) (places : List Nat) :
    (c.carryOut a origin places).draws.toList = c.draws.toList ++ a.counts := by
  cases a with
  | attack a =>
    show (c.attack a.amount origin.slot places).draws.toList = c.draws.toList ++ []
    unfold attack
    dsimp only
    rw [List.append_nil]
    split
    · rfl
    · rw [draws_strikes]
      rfl
  | defend amount =>
    unfold carryOut
    dsimp only
    split <;> exact (List.append_nil _).symm
  | draw count => exact Array.toList_push
  | _ => exact (List.append_nil _).symm

end Combat

/-! ## Runs -/

variable {σ : Type} {actions : List Action} {bonus : Amount} {s : Sequence} {c : Combat σ}

/-- The sequence stands within some actions, and those behind it have whetted the actor's buff. -/
structure Sequence.Along (actions : List Action) (bonus : Amount) (s : Sequence) (c : Combat σ) :
    Prop where
  pending : s.pending = actions.drop s.behind
  bonus : c.actor.buffs.attack = whetted (actions.take s.behind) bonus

/-- What some steps of actions show, one after the other. -/
def shown (actions : List Action) (slot : Option Slot) (bonus : Amount) (answered : Nat → Bool)
    (steps : List (Action × Boundary)) : List Cue :=
  steps.flatMap fun (a, b) =>
    a.shows slot (whetted (actions.take b.action) bonus) answered b.recipients

/-- A boundary names all places that its step shows. -/
theorem shown_cons (s : Sequence) (a : Action) (places : List Nat) (pacing : Pacing)
    (slot : Option Slot) (answered : Nat → Bool) (steps : List (Action × Boundary)) :
    shown actions slot bonus answered ((a, s.boundary a places pacing) :: steps) =
      a.shows slot (whetted (actions.take s.behind) bonus) answered places ++
        shown actions slot bonus answered steps := by
  cases a <;> rfl

namespace Sequence

/-- A step passes on to the next action, unless its action is an attack. -/
theorem cases_advance (s : Sequence) (a : Action) :
    (∃ b, a = .attack b ∧ s.advance a = s.nextRound) ∨ s.advance a = s.nextAction := by
  unfold advance
  by_cases hround : s.round + 1 < a.times.toNat
  · rw [if_pos hround]
    cases a with
    | attack b => exact .inl ⟨b, rfl, rfl⟩
    | _ => exact absurd hround (Nat.not_lt.2 (Nat.le_add_left 1 s.round))
  · exact .inr (if_neg hround)

theorem Along.carryOut (h : s.Along actions bonus c) {a : Action} {tail : List Action}
    (hp : s.pending = a :: tail) (origin : Origin) (places : List Nat) :
    (s.advance a).Along actions bonus (c.carryOut a origin places) := by
  have hbonus := c.attackBuff_carryOut a origin places
  rw [h.bonus] at hbonus
  rcases s.cases_advance a with ⟨b, rfl, heq⟩ | heq
  · rw [heq]
    exact ⟨h.pending, hbonus⟩
  · rw [heq]
    refine ⟨pending_nextAction h.pending, ?_⟩
    show _ = whetted (actions.take (s.behind + 1)) bonus
    rw [hbonus, List.take_add_one, getElem?_behind h.pending hp, whetted, whetted,
      List.foldl_append]
    rfl

theorem counts_pending {a : Action} {tail : List Action} (hp : s.pending = a :: tail) :
    s.pending.flatMap Action.counts =
      a.counts ++ (s.advance a).pending.flatMap Action.counts := by
  rcases s.cases_advance a with ⟨b, rfl, heq⟩ | heq
  · rw [heq]
    rfl
  · rw [heq, nextAction, hp]
    rfl

variable [Chance σ]

/-- A run shows what its steps show. -/
theorem Along.cues_run (h : s.Along actions bonus c) (target : Option Nat) (pacing : Pacing) :
    (s.run target pacing c).combat.cues.toList =
      c.cues.toList ++
        shown actions s.origin.slot bonus c.bristlesAt (s.walk target pacing c) := by
  induction s, c using @run_induction σ _ target pacing with
  | finished s c hp hstep =>
    rw [run_of_finished hstep, walk_of_finished hstep]
    exact (List.append_nil _).symm
  | failed s c a tail fault hp hr hstep =>
    rw [run_of_failed hstep, walk_of_failed hstep]
    exact (List.append_nil _).symm
  | committed s c a tail places source hp hr hstep ih =>
    have hsourced : s.Along actions bonus { c with source } := ⟨h.pending, h.bonus⟩
    have hcues := ih (hsourced.carryOut hp s.origin places)
    rw [Combat.cues_carryOut, Combat.bristlesAt_carryOut, origin_advance,
      List.append_assoc] at hcues
    rw [run_of_committed hstep, walk_of_committed hp hstep, shown_cons, ← h.bonus]
    exact hcues

/-- A run that succeeds draws for all the actions before it. -/
theorem draws_run {target : Option Nat} {pacing : Pacing} {n : Nat}
    (h : (s.run target pacing c).report = .ok n) :
    (s.run target pacing c).combat.draws.toList =
      c.draws.toList ++ s.pending.flatMap Action.counts := by
  induction s, c using @run_induction σ _ target pacing generalizing n with
  | finished s c hp hstep =>
    rw [run_of_finished hstep, hp]
    exact (List.append_nil _).symm
  | failed s c a tail fault hp hr hstep =>
    rw [run_of_failed hstep] at h
    cases h
  | committed s c a tail places source hp hr hstep ih =>
    rw [run_of_committed hstep] at h
    obtain ⟨k, hk, -⟩ := After.exists_of_report_behind h
    have hdraws := ({ c with source } : Combat σ).draws_carryOut a s.origin places
    rw [run_of_committed hstep, counts_pending hp, ← List.append_assoc]
    show ((s.advance a).run target pacing _).combat.draws.toList = _
    rw [ih hk, hdraws]

end Sequence

/-! ## Plans -/

/-- What is shown is known from the rounds of the steps and from whom they struck. -/
theorem shown_eq_zip (slot : Option Slot) (answered : Nat → Bool)
    (steps : List (Action × Boundary)) :
    shown actions slot bonus answered steps =
      ((steps.map fun (a, b) => (a, b.action, b.round)).zip
        (steps.map fun (_, b) => b.recipients)).flatMap
          fun ((a, i, _), places) =>
            a.shows slot (whetted (actions.take i) bonus) answered places := by
  rw [List.zip_map', List.flatMap_map]
  rfl

theorem Combat.bristlesAt_congr {σ τ : Type} {c : Combat σ} {d : Combat τ}
    (h : d.pool.map (fun f => (f.spike, f.buffs.spike)) =
      c.pool.map fun f => (f.spike, f.buffs.spike)) : d.bristlesAt = c.bristlesAt := by
  have hpool {ρ : Type} (e : Combat ρ) (i : Nat) : e.bristlesAt i =
      (e.pool.map fun f => (f.spike, f.buffs.spike))[i]?.any fun (spike, buff) =>
        decide (0 < spike.toInt ∧ 0 < spike.toInt + buff.toInt) := by
    unfold bristlesAt
    rw [List.getElem?_map, Option.any_map]
    rfl
  funext i
  rw [hpool d, hpool c, h]

variable [Chance σ]

/-- A plan that succeeds goes through all rounds of its actions. It shows what they show one after
another, and draws the counts of its actions. -/
theorem Combat.streams_enact (p : Plan) (target : Option Nat) (c : Combat σ) {n : Nat}
    (h : (c.enact p target).1 = .ok n) :
    (p.sequence.walk target {} c).map (fun (a, b) => (a, b.action, b.round)) = rounds p.actions ∧
      (c.enact p target).2.cues.toList = c.cues.toList ++
        shown p.actions p.origin.slot c.actor.buffs.attack c.bristlesAt
          (p.sequence.walk target {} c) ∧
      (c.enact p target).2.draws.toList = c.draws.toList ++ p.actions.flatMap Action.counts := by
  rw [enact_eq_follow] at h ⊢
  have hstart : p.sequence.Along p.actions c.actor.buffs.attack c :=
    ⟨by rw [p.pending_sequence, p.behind_sequence, List.drop_zero],
      by rw [p.behind_sequence, List.take_zero]; rfl⟩
  have hcues := hstart.cues_run target {}
  have hdraws := Sequence.draws_run h
  rw [p.origin_sequence] at hcues
  rw [p.pending_sequence] at hdraws
  exact ⟨Plan.map_walk h, hcues, hdraws⟩

/-- The cues of a plan that succeeds are those of its steps, one after another: one of each action
that is not an attack, and the strike of an attack with the spikes that answer it. Its draws are
the counts of its actions. A combat that agrees in the actor's attack buff, in the spikes of the
pool and in whom the steps strike has the same cues and draws, whatever else it holds. -/
theorem enact_streams (p : Plan) (target : Option Nat) (c : Combat σ) {n : Nat}
    (h : (c.enact p target).1 = .ok n) :
    let steps := p.sequence.walk target {} c
    let cues := shown p.actions p.origin.slot c.actor.buffs.attack c.bristlesAt steps
    let draws := p.actions.flatMap Action.counts
    steps.map (fun (a, b) => (a, b.action, b.round)) = rounds p.actions ∧
      (c.enact p target).2.cues.toList = c.cues.toList ++ cues ∧
      (c.enact p target).2.draws.toList = c.draws.toList ++ draws ∧
      ∀ {τ : Type} [Chance τ] (d : Combat τ),
        d.actor.buffs.attack = c.actor.buffs.attack →
        d.pool.map (fun f => (f.spike, f.buffs.spike)) =
          c.pool.map (fun f => (f.spike, f.buffs.spike)) →
        (p.sequence.walk target {} d).map (fun (_, b) => b.recipients) =
          steps.map (fun (_, b) => b.recipients) →
        (d.enact p target).2.cues.toList = d.cues.toList ++ cues ∧
          (d.enact p target).2.draws.toList = d.draws.toList ++ draws := by
  intro steps cues draws
  obtain ⟨hrounds, hcues, hdraws⟩ := c.streams_enact p target h
  refine ⟨hrounds, hcues, hdraws, fun d hbonus hpool hrecipients => ?_⟩
  have hlength : d.pool.length = c.pool.length := by
    simpa using congrArg List.length hpool
  have hok : (d.enact p target).1 = .ok n := by
    rw [Combat.enact_ok_iff, hlength, ← Combat.enact_ok_iff]
    exact h
  obtain ⟨hrounds', hcues', hdraws'⟩ := d.streams_enact p target hok
  -- Both runs make the same rounds and strike the same places, so both show the same.
  rw [hbonus, Combat.bristlesAt_congr hpool, shown_eq_zip, hrounds', hrecipients, ← hrounds,
    ← shown_eq_zip] at hcues'
  exact ⟨hcues', hdraws'⟩

/-- Of three opponents only the hedgehog bristles: the buff of the cactus cancels its spikes. A buff
of the actor takes all force from the attack behind it. -/
theorem enact_streams_dulled :
    let hedgehog : Fighter := { maxLife := 10, life := 10, defense := 3, spike := 2 }
    let cactus : Fighter := { maxLife := 8, life := 6, spike := 4, buffs := { spike := -4 } }
    let actor : Fighter := { maxLife := 30, life := 30, buffs := { attack := 1 } }
    let c : Combat Script :=
      { actor, pool := [hedgehog, cactus, .fresh 5], source := { indices := #[2, 0] } }
    let d : Combat Script :=
      { actor := { actor with life := 1, poison := 7 }
        pool := [{ hedgehog with life := 0 }, { cactus with burn := 9 }, .fresh 40]
        source := { indices := #[5, 3] } }
    let p : Plan := .bare [.attack { amount := 2, area := true }, .draw 3, .buff .attack (-6),
      .attack { amount := 5, area := true }, .buff .attack 4, .draw 1,
      .attack { amount := 2, random := true, times := 2 }]
    let cues : List Cue := [.strike none, .spikes, .draw 3, .buff .attack, .strike none,
      .buff .attack, .draw 1, .strike none, .strike none, .spikes]
    (c.enact p none).1 = .ok 8 ∧
      (c.enact p none).2.cues.toList = cues ∧ (c.enact p none).2.draws.toList = [3, 1] ∧
      (d.enact p none).2.cues.toList = cues ∧ (d.enact p none).2.draws.toList = [3, 1] := by
  intro hedgehog cactus actor c d p cues
  have hok : (c.enact p none).1 = .ok 8 := by
    rw [Combat.enact_eq_course]
    decide +kernel
  have hshown : shown p.actions p.origin.slot c.actor.buffs.attack c.bristlesAt
      (p.sequence.walk none {} c) = cues := by
    decide +kernel
  obtain ⟨-, hcues, hdraws, hother⟩ := enact_streams p none c hok
  rw [hshown] at hcues
  obtain ⟨hcues', hdraws'⟩ := hother d rfl rfl (by decide +kernel)
  rw [hshown] at hcues'
  exact ⟨hok, hcues, hdraws, hcues', hdraws'⟩

end Skirmish
