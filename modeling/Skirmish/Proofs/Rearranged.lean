import Skirmish.Proofs.Combat.Cues
import Skirmish.Proofs.Feasible
import Skirmish.Proofs.Replay

/-!
# Rearranged pools

`Rearranged s c d` says that two combats differ in the order of their opponents alone: whoever
stands at `i` in the one stands at `s i` in the other. Carrying out an action on places that
correspond keeps it so (`Rearranged.carryOut`). The one thing that has an order is an attack on
everyone, whose strikes are answered one after the other; but the answers only add up, as long as
nobody's defense is negative, and all of them show the same cue.

So a plan is carried out alike on a rearranged pool, if its target and the places drawn for its
random attacks are rearranged too (`enact_rearranged`).
-/

namespace Skirmish

variable {σ τ : Type} {n : Nat}

/-! ## Places -/

/-- Where a rearrangement puts a place of the pool. Outside the pool nothing moves. -/
def place (s : Equiv.Perm (Fin n)) (i : Nat) : Nat :=
  if h : i < n then s ⟨i, h⟩ else i

section
variable (s : Equiv.Perm (Fin n))

@[simp] theorem place_val (i : Fin n) : place s i = s i := dif_pos i.isLt

theorem place_of_le {i : Nat} (h : n ≤ i) : place s i = i := dif_neg (Nat.not_lt.2 h)

theorem place_lt_iff {i : Nat} : place s i < n ↔ i < n := by
  by_cases h : i < n
  · exact iff_of_true ((place_val s ⟨i, h⟩).symm ▸ (s ⟨i, h⟩).isLt) h
  · rw [place_of_le s (Nat.not_lt.1 h)]

theorem place_injective : Function.Injective (place s) := by
  intro i j hij
  by_cases hi : i < n
  · have hj : j < n := by rwa [← place_lt_iff s, ← hij, place_lt_iff s]
    rw [place_val s ⟨i, hi⟩, place_val s ⟨j, hj⟩] at hij
    exact congrArg Fin.val (s.injective (Fin.ext hij))
  · have hj : ¬ j < n := by rwa [← place_lt_iff s, ← hij, place_lt_iff s]
    rwa [place_of_le s (Nat.not_lt.1 hi), place_of_le s (Nat.not_lt.1 hj)] at hij

/-- All places of the pool are all places of it in another order. -/
theorem perm_range_place : (List.range n).Perm ((List.range n).map (place s)) := by
  have hcomp : place s ∘ Fin.val = Fin.val ∘ s := funext (place_val s)
  rw [← List.map_coe_finRange_eq_range, List.map_map, hcomp, ← List.map_map]
  exact (Equiv.Perm.map_finRange_perm s).symm.map Fin.val

end

/-! ## Combats -/

namespace Combat

structure Rearranged (s : Equiv.Perm (Fin n)) (c : Combat σ) (d : Combat τ) : Prop where
  actor : d.actor = c.actor
  cues : d.cues = c.cues
  draws : d.draws = c.draws
  size : c.pool.length = n
  size' : d.pool.length = n
  pool (i : Fin n) : d.pool[(s i).val]? = c.pool[i.val]?

namespace Rearranged

variable {s : Equiv.Perm (Fin n)} {c : Combat σ} {d : Combat τ} {places places' : List Nat}

theorem getElem?_place (h : Rearranged s c d) (i : Nat) : d.pool[place s i]? = c.pool[i]? := by
  by_cases hi : i < n
  · rw [place_val s ⟨i, hi⟩]
    exact h.pool ⟨i, hi⟩
  · have hle := Nat.not_lt.1 hi
    rw [place_of_le s hle, List.getElem?_eq_none (h.size.trans_le hle),
      List.getElem?_eq_none (h.size'.trans_le hle)]

theorem stingAt_place (h : Rearranged s c d) (i : Nat) : d.stingAt (place s i) = c.stingAt i := by
  unfold stingAt
  rw [h.getElem?_place]

theorem guarded (h : Rearranged s c d) (hg : c.Guarded) : d.Guarded := by
  refine ⟨h.actor ▸ hg.actor, fun f hf => ?_⟩
  obtain ⟨j, hj⟩ := List.mem_iff_getElem?.1 hf
  have hlt : j < n := h.size' ▸ (List.getElem?_eq_some_iff.1 hj).1
  have hpool := h.pool (s.symm ⟨j, hlt⟩)
  rw [Equiv.apply_symm_apply, hj] at hpool
  exact hg.pool f (List.mem_of_getElem? hpool.symm)

theorem cue (h : Rearranged s c d) (q : Cue) : Rearranged s (c.cue q) (d.cue q) :=
  { h with cues := congrArg (Array.push · q) h.cues }

theorem onActor (h : Rearranged s c d) (f : Fighter → Fighter) :
    Rearranged s (c.onActor f) (d.onActor f) :=
  { h with actor := congrArg f h.actor }

/-- Places that correspond occur equally often. -/
theorem count_place (hp : places'.Perm (places.map (place s))) (i : Nat) :
    places'.count (place s i) = places.count i := by
  rw [hp.count_eq, List.count_map_of_injective _ _ (place_injective s)]

theorem onPlaces (h : Rearranged s c d) (hp : places'.Perm (places.map (place s)))
    (f : Fighter → Fighter) : Rearranged s (c.onPlaces places f) (d.onPlaces places' f) where
  actor := h.actor
  cues := h.cues
  draws := h.draws
  size := (length_pool_onPlaces c places f).trans h.size
  size' := (length_pool_onPlaces d places' f).trans h.size'
  pool i := by
    rw [getElem?_onPlaces, getElem?_onPlaces, h.pool, ← place_val s i, count_place hp]

/-- Strikes add up, in whatever order they are answered. -/
theorem strikes (h : Rearranged s c d) (hg : c.Guarded)
    (hp : places'.Perm (places.map (place s))) {damage : Amount} (hd : 0 < damage) :
    Rearranged s (places.foldl (strike damage) c) (places'.foldl (strike damage) d) := by
  have hc := endures_strikes hd places hg
  have hd' := endures_strikes hd places' (h.guarded hg)
  -- The actor meets the same stings in another order, so it bears the same sum of them.
  have hstings : (places'.map d.stingAt).Perm (places.map c.stingAt) := by
    have hmap := hp.map d.stingAt
    rw [List.map_map] at hmap
    exact hmap.trans (.of_eq (List.map_congr_left fun i _ => h.stingAt_place i))
  refine ⟨?_, ?_, ?_, hc.length_pool.trans h.size, hd'.length_pool.trans h.size', fun i => ?_⟩
  · have hactor := hd'.actor
    rw [h.actor, hstings.sum_eq] at hactor
    exact hactor.unique hc.actor
  · rw [← Array.toList_inj, cues_strikes d hd, cues_strikes c hd, h.cues,
      hp.countP_eq, List.countP_map]
    simp only [Function.comp_def, h.stingAt_place]
  · rw [draws_strikes, draws_strikes, h.draws]
  · have hpool := hd'.pool (place s i)
    rw [h.getElem?_place, count_place hp, place_val] at hpool
    exact Fighter.Bears.unique_of_rel hpool (hc.pool i)

theorem attack (h : Rearranged s c d) (hg : c.Guarded)
    (hp : places'.Perm (places.map (place s))) (amount : Amount) (slot : Option Slot) :
    Rearranged s (c.attack amount slot places) (d.attack amount slot places') := by
  unfold Combat.attack
  rw [h.actor]
  dsimp only
  have hcue := h.cue (.strike slot)
  by_cases hd : Saturating.add amount c.actor.buffs.attack < 1
  · rw [if_pos hd, if_pos hd]
    exact hcue
  · rw [if_neg hd, if_neg hd]
    exact hcue.strikes (hg.cue _) hp (Saturating.pos_of_not_lt_one hd)

/-- An action is carried out alike on places that correspond. -/
theorem carryOut (h : Rearranged s c d) (hg : c.Guarded)
    (hp : places'.Perm (places.map (place s))) (a : Action) (origin : Origin) :
    Rearranged s (c.carryOut a origin places) (d.carryOut a origin places') := by
  cases a with
  | attack a => exact h.attack hg hp _ _
  | defend amount =>
    unfold Combat.carryOut
    dsimp only
    by_cases haim : origin.aim = .opponent
    · rw [if_pos haim, if_pos haim]
      exact (h.onPlaces hp _).cue _
    · rw [if_neg haim, if_neg haim]
      exact (h.onActor _).cue _
  | burn amount | poison amount => exact (h.onPlaces hp _).cue _
  | draw count => exact { h.cue (.draw count) with draws := congrArg (Array.push · count) h.draws }
  | heal amount => exact (h.cue _).onActor (·.heal amount)
  | spike amount => exact (h.cue _).onActor (·.gainSpike amount)
  | cleanse => exact (h.cue _).onActor (·.cleanse)
  | buff stat amount => exact (h.cue _).onActor (·.buff stat amount)

end Rearranged

end Combat

/-! ## Targets and draws -/

/-- The same opponent is declared as before, or nobody in the pool as before. -/
def Redirected (s : Equiv.Perm (Fin n)) (target target' : Option Nat) : Prop :=
  (∃ i : Fin n, target = some i.val ∧ target' = some (s i).val) ∨
    (misses target n ∧ misses target' n)

variable {s : Equiv.Perm (Fin n)} {target target' : Option Nat}

theorem misses_redirected (h : Redirected s target target') :
    misses target' n = misses target n := by
  rcases h with ⟨i, rfl, rfl⟩ | ⟨hm, hm'⟩
  · have hi : misses (some i.val) n = false := decide_eq_false (Nat.not_le.2 i.isLt)
    have hsi : misses (some (s i).val) n = false := decide_eq_false (Nat.not_le.2 (s i).isLt)
    rw [hi, hsi]
  · rw [hm, hm']

/-- The same obstacles stand in the way. -/
theorem obstacle?_redirected (h : Redirected s target target') (a : Action) (aim : Aim) :
    a.obstacle? aim target' n = a.obstacle? aim target n := by
  unfold Action.obstacle?
  rw [misses_redirected h]

variable [Chance σ] [Chance τ] {source next : σ} {source' next' : τ} {places : List Nat}

theorem Targeting.recipients_redirected (h : Redirected s target target') {t : Targeting}
    (hr : t.recipients n target source = .ok (places, next))
    (hdraws : Draws n ((if t = .random then places else []).map (place s)) source' next') :
    ∃ places', t.recipients n target' source' = .ok (places', next') ∧
      places'.Perm (places.map (place s)) := by
  rcases cases_recipients hr with ⟨rfl, hn, rfl, -⟩ | ⟨rfl, hn, rfl, -⟩ | ⟨rfl, i, hi, hlt, rfl, -⟩
  · cases hdraws
    exact ⟨List.range n, if_neg hn, perm_range_place s⟩
  · rw [if_pos rfl, List.map_singleton] at hdraws
    generalize hi : place s (Chance.index n source).1 = i at hdraws
    cases hdraws with
    | cons _ hnil =>
      cases hnil
      refine ⟨[(Chance.index n source').1], if_neg hn, ?_⟩
      rw [List.map_singleton, hi]
  · cases hdraws
    rcases h with ⟨j, hj, rfl⟩ | ⟨hm, -⟩
    · obtain rfl := Option.some.inj (hi.symm.trans hj)
      refine ⟨[(s j).val], if_pos (s j).isLt, ?_⟩
      rw [List.map_singleton, place_val]
    · rw [hi] at hm
      exact absurd hlt (by simpa [misses] using hm)

namespace Action

variable {a : Action} {origin : Origin}

theorem reach_error_redirected (h : Redirected s target target') {fault : Fault}
    (hr : a.reach origin target n source = .error fault) (source' : τ) :
    a.reach origin target' n source' = .error fault := by
  rw [reach_eq_error_iff, obstacle?_redirected h]
  exact reach_eq_error_iff.1 hr

/-- An action reaches the places that correspond, if what it draws does. -/
theorem reach_redirected (h : Redirected s target target')
    (hr : a.reach origin target n source = .ok (places, next))
    (hdraws : Draws n ((a.drawn places).map (place s)) source' next') :
    ∃ places', a.reach origin target' n source' = .ok (places', next') ∧
      places'.Perm (places.map (place s)) := by
  cases a with
  | attack a =>
    refine Targeting.recipients_redirected h hr ?_
    simpa [drawn, targeting?] using hdraws
  | burn amount | poison amount =>
    exact Targeting.recipients_redirected (t := .declared) h hr hdraws
  | defend amount =>
    unfold reach at hr ⊢
    dsimp only at hr ⊢
    by_cases haim : origin.aim = .opponent
    · rw [if_pos haim] at hr ⊢
      exact Targeting.recipients_redirected (t := .declared) h hr hdraws
    · rw [if_neg haim] at hr ⊢
      cases hr
      cases hdraws
      exact ⟨[], rfl, .nil⟩
  | _ =>
    cases hr
    cases hdraws
    exact ⟨[], rfl, .nil⟩

end Action

/-! ## Runs -/

/-- A run goes alike on a rearranged pool, if what it draws is rearranged, and draws just that. -/
theorem Sequence.run_rearranged (ht : Redirected s target target') (q : Sequence)
    (pacing : Pacing) {c : Combat σ} {d : Combat τ} (h : c.Rearranged s d) (hg : c.Guarded)
    {last : τ} (hdraws : Draws n ((picks (q.walk target pacing c)).map (place s)) d.source last) :
    (q.run target' pacing d).report = (q.run target pacing c).report ∧
      (q.run target pacing c).combat.Rearranged s (q.run target' pacing d).combat ∧
      (q.run target' pacing d).combat.source = last := by
  induction q, c using @run_induction σ _ target pacing generalizing d with
  | finished q c hp hstep =>
    rw [walk_of_finished hstep] at hdraws
    cases hdraws
    rw [run_of_finished hstep, run_of_finished (step_of_pending_nil hp target' pacing d)]
    exact ⟨rfl, h, rfl⟩
  | failed q c a tail fault hp hr hstep =>
    rw [walk_of_failed hstep] at hdraws
    cases hdraws
    rw [h.size] at hr
    have hr' := Action.reach_error_redirected ht hr d.source
    rw [← h.size'] at hr'
    rw [run_of_failed hstep, run_of_failed (step_of_reach_error hp hr' pacing)]
    exact ⟨rfl, h, rfl⟩
  | committed q c a tail places next hp hr hstep ih =>
    rw [walk_of_committed hp hstep, picks_cons, List.map_append] at hdraws
    obtain ⟨middle, hfirst, hrest⟩ := hdraws.split
    rw [h.size] at hr
    obtain ⟨places', hr', hplaces⟩ := Action.reach_redirected ht hr hfirst
    rw [← h.size'] at hr'
    -- Both runs make this step, and the second has drawn what it may draw for it.
    have hstep' := step_of_reach_ok hp hr' pacing
    rw [run_of_committed hstep, run_of_committed hstep']
    have hsourced : ({ c with source := next } : Combat σ).Rearranged s
        ({ d with source := middle } : Combat τ) :=
      ⟨h.actor, h.cues, h.draws, h.size, h.size', h.pool⟩
    have hguarded : ({ c with source := next } : Combat σ).Guarded := ⟨hg.actor, hg.pool⟩
    obtain ⟨hreport, hcombat, hlast⟩ := ih (hsourced.carryOut hguarded hplaces a q.origin)
      (hguarded.carryOut a q.origin places) (by rw [Combat.source_carryOut]; exact hrest)
    exact ⟨congrArg (Except.map (1 + ·)) hreport, hcombat, hlast⟩

theorem draws_of_indices {size : Nat} (hsize : 0 < size) (k : Nat) (source : σ) :
    ∃ last, Draws size (Chance.indices size k source) source last := by
  induction k generalizing source with
  | zero => exact ⟨source, .nil source⟩
  | succ k ih =>
    obtain ⟨last, h⟩ := ih (Chance.index size source).2
    exact ⟨last, .cons hsize h⟩

/-- The order of the opponents does not matter. On a pool rearranged by `s`, with the target
rearranged and a source that answers with the rearranged places wherever the first run drew one, a
plan has the same result, leaves the same actor, cues and draws, and leaves every opponent as the
first run does, in its new place. Of the counters, none but defense need be asked about. -/
theorem enact_rearranged (s : Equiv.Perm (Fin n)) (p : Plan) {c : Combat σ} {d : Combat τ}
    (h : c.Rearranged s d) (hg : c.Guarded) (ht : Redirected s target target')
    (hanswers : Chance.indices n (picks (p.sequence.walk target {} c)).length d.source =
      (picks (p.sequence.walk target {} c)).map (place s)) :
    (d.enact p target').1 = (c.enact p target).1 ∧
      (c.enact p target).2.Rearranged s (d.enact p target').2 := by
  obtain ⟨last, hdraws⟩ : ∃ last, Draws n ((picks (p.sequence.walk target {} c)).map (place s))
      d.source last := by
    have hfirst := (p.sequence.run_draws target {} c).1
    rw [h.size] at hfirst
    rw [← hanswers]
    generalize picks (p.sequence.walk target {} c) = drawn at hfirst
    generalize c.source = source, (p.sequence.run target {} c).combat.source = next at hfirst
    cases hfirst with
    | nil => exact ⟨d.source, .nil _⟩
    | cons hpos _ => exact draws_of_indices hpos _ _
  obtain ⟨hreport, hcombat, -⟩ := p.sequence.run_rearranged ht {} h hg hdraws
  rw [Combat.enact_eq_follow, Combat.enact_eq_follow]
  exact ⟨hreport, hcombat⟩

/-- Three opponents move on by one place each; two of them have spikes. -/
theorem enact_rearranged_rotated :
    let hedgehog : Fighter := { maxLife := 10, life := 10, defense := 3, spike := 2 }
    let rat : Fighter := { maxLife := 5, life := 5 }
    let cactus : Fighter := { maxLife := 8, life := 6, spike := 4, buffs := { spike := 1 } }
    let actor : Fighter := { maxLife := 30, life := 30, defense := 6 }
    let c : Combat Script :=
      { actor := actor, pool := [hedgehog, rat, cactus], source := { indices := #[0, 2] } }
    let d : Combat Script :=
      { actor := actor, pool := [cactus, hedgehog, rat], source := { indices := #[1, 0] } }
    let p : Plan := .bare [.attack { amount := 4, area := true },
      .attack { amount := 2, random := true, times := 2 }, .burn 3]
    c.Rearranged (finRotate 3) d ∧ c.Guarded ∧ Redirected (finRotate 3) (some 1) (some 2) ∧
      (c.enact p (some 1)).1 = .ok 4 ∧ (d.enact p (some 2)).1 = .ok 4 ∧
      (c.enact p (some 1)).2.Rearranged (finRotate 3) (d.enact p (some 2)).2 := by
  intro hedgehog rat cactus actor c d p
  have h : c.Rearranged (finRotate 3) d := ⟨rfl, rfl, rfl, rfl, rfl, by decide⟩
  have hg : c.Guarded := ⟨by decide, by decide⟩
  have ht : Redirected (finRotate 3) (some 1) (some 2) := .inl ⟨1, rfl, by decide⟩
  have hpicks : picks (p.sequence.walk (some 1) {} c) = [0, 2] := by decide +kernel
  have hanswers : Chance.indices 3 (picks (p.sequence.walk (some 1) {} c)).length d.source =
      (picks (p.sequence.walk (some 1) {} c)).map (place (finRotate 3)) := by
    rw [hpicks]
    decide
  obtain ⟨hreport, hcombat⟩ := enact_rearranged (finRotate 3) p h hg ht hanswers
  have hok : (c.enact p (some 1)).1 = .ok 4 := by decide +kernel
  exact ⟨h, hg, ht, hok, hreport.trans hok, hcombat⟩

end Skirmish
