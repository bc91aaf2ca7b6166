import Skirmish.Chance.Script
import Skirmish.Proofs.Walk

/-!
# Boundaries

What single steps report, when none fails. `rounds` lists the rounds of some actions, `ahead` those
that a sequence has before it, each with the action and its place; a step makes the first of them
and leaves the others (`ahead_of_pending_cons`). So the boundaries of a walk go through all rounds
in order (`map_walk`), and since `ahead` is known before a step, each boundary tells rightly whether
another one follows and how long to wait for it (`linked_walk`).
-/

namespace Skirmish

/-- The pause between a step and the next one, by the places of their actions. -/
def Pacing.between (pacing : Pacing) (action : Nat) : Option Nat → UInt64
  | none => 0
  | some next => if next = action then pacing.attack else pacing.action

/-- The rounds of some actions, in order: the action, its place and the round. -/
def rounds (actions : List Action) (behind : Nat := 0) : List (Action × Nat × Nat) :=
  (actions.zipIdx behind).flatMap fun (a, i) => (List.range a.steps).map fun k => (a, i, k)

theorem rounds_cons (a : Action) (actions : List Action) (behind : Nat) :
    rounds (a :: actions) behind =
      (List.range a.steps).map (fun k => (a, behind, k)) ++ rounds actions (behind + 1) := rfl

theorem getElem?_of_mem_rounds {actions : List Action} {a : Action} {i k : Nat}
    (h : (a, i, k) ∈ rounds actions) : actions[i]? = some a := by
  obtain ⟨due, hmem, hk⟩ := List.mem_flatMap.1 h
  obtain ⟨k', -, heq⟩ := List.mem_map.1 hk
  cases heq
  exact List.mem_zipIdx_iff_getElem?.1 hmem

namespace Sequence

/-- The rounds that a sequence has before it when none fails. -/
def ahead (s : Sequence) : List (Action × Nat × Nat) :=
  match s.pending with
  | [] => []
  | a :: rest =>
    (List.range' s.round (max 1 (a.times.toNat - s.round))).map (fun k => (a, s.behind, k)) ++
      rounds rest (s.behind + 1)

theorem ahead_of_pending_nil {s : Sequence} (h : s.pending = []) : s.ahead = [] := by
  unfold ahead
  rw [h]

theorem ahead_of_round_zero {s : Sequence} (h : s.round = 0) :
    s.ahead = rounds s.pending s.behind := by
  unfold ahead
  cases s.pending with
  | nil => rfl
  | cons a rest =>
    rw [rounds_cons, h, List.range_eq_range']
    rfl

/-- The first round is the one under way, and a step that makes it leaves the others. -/
theorem ahead_of_pending_cons {s : Sequence} {a : Action} {rest : List Action}
    (h : s.pending = a :: rest) : s.ahead = (a, s.behind, s.round) :: (s.advance a).ahead := by
  unfold advance
  split
  · rename_i hr
    simp only [ahead, nextRound, h]
    obtain ⟨k, hk⟩ : ∃ k, a.times.toNat - s.round = k + 2 := ⟨a.times.toNat - s.round - 2, by omega⟩
    rw [hk, show a.times.toNat - (s.round + 1) = k + 1 by omega,
      show max 1 (k + 2) = max 1 (k + 1) + 1 by omega]
    rfl
  · rename_i hr
    rw [ahead_of_round_zero (s := s.nextAction) rfl]
    simp only [ahead, nextAction, h, List.tail_cons]
    rw [show max 1 (a.times.toNat - s.round) = 1 by omega]
    rfl

theorem isSome_head?_ahead (s : Sequence) : s.ahead.head?.isSome = !s.done := by
  unfold done
  cases hp : s.pending with
  | nil => rw [ahead_of_pending_nil hp]; rfl
  | cons a rest => rw [ahead_of_pending_cons hp]; rfl

/-- The pause of a step is known from the round behind it. -/
theorem pauseAfter_eq_between (s : Sequence) (a : Action) (pacing : Pacing) :
    s.pauseAfter a pacing =
      pacing.between s.behind ((s.advance a).ahead.head?.map fun (_, i, _) => i) := by
  unfold pauseAfter
  by_cases hdone : (s.advance a).done
  · rw [if_pos hdone, ahead_of_pending_nil (List.isEmpty_iff.1 hdone)]
    rfl
  · rw [if_neg hdone]
    obtain ⟨b, tail, hp⟩ : ∃ b tail, (s.advance a).pending = b :: tail :=
      List.exists_cons_of_ne_nil fun hnil => hdone (List.isEmpty_iff.2 hnil)
    rw [ahead_of_pending_cons hp]
    show _ = if (s.advance a).behind = s.behind then pacing.attack else pacing.action
    unfold advance
    by_cases hround : s.round + 1 < a.times.toNat
    · rw [if_pos hround, if_pos hround]
      exact (if_pos rfl).symm
    · rw [if_neg hround, if_neg hround]
      exact (if_neg (Nat.succ_ne_self s.behind)).symm

/-! ## Walks -/

variable {σ : Type} [Chance σ] {target : Option Nat} {pacing : Pacing} {s : Sequence}
  {c : Combat σ}

/-- The boundaries of a run that succeeds go through the rounds before it. -/
theorem map_walk {n : Nat} (h : (s.run target pacing c).report = .ok n) :
    (s.walk target pacing c).map (fun (a, b) => (a, b.action, b.round)) = s.ahead := by
  induction s, c using @run_induction σ _ target pacing generalizing n with
  | finished s c hp hstep => rw [walk_of_finished hstep, ahead_of_pending_nil hp, List.map_nil]
  | failed s c a tail fault hp hr hstep =>
    rw [run_of_failed hstep] at h
    cases h
  | committed s c a tail places source hp hr hstep ih =>
    rw [run_of_committed hstep] at h
    obtain ⟨k, hk, -⟩ := After.exists_of_report_behind h
    rw [walk_of_committed hp hstep, ahead_of_pending_cons hp, List.map_cons, ih hk]
    rfl

/-- A boundary tells whether another one follows, and the pause before it. -/
theorem linked_walk {n : Nat} (h : (s.run target pacing c).report = .ok n) :
    ∀ (j : Nat) (made : Action × Boundary), (s.walk target pacing c)[j]? = some made →
      made.2.more = ((s.walk target pacing c)[j + 1]?).isSome ∧
        made.2.pause = pacing.between made.2.action
          ((s.walk target pacing c)[j + 1]?.map fun next => next.2.action) := by
  induction s, c using @run_induction σ _ target pacing generalizing n with
  | finished s c hp hstep =>
    intro j made hj
    rw [walk_of_finished hstep] at hj
    cases hj
  | failed s c a tail fault hp hr hstep =>
    rw [run_of_failed hstep] at h
    cases h
  | committed s c a tail places source hp hr hstep ih =>
    rw [run_of_committed hstep] at h
    obtain ⟨k, hk, -⟩ := After.exists_of_report_behind h
    rw [walk_of_committed hp hstep]
    intro j made hj
    cases j with
    | zero =>
      obtain rfl := Option.some.inj hj
      -- The next boundary is of the first round behind the step.
      have hnext := congrArg List.head? (map_walk hk)
      rw [List.head?_map, List.head?_eq_getElem?] at hnext
      refine ⟨?_, ?_⟩
      · have hmore := congrArg Option.isSome hnext
        rw [Option.isSome_map, isSome_head?_ahead] at hmore
        exact hmore.symm
      · have hpause := s.pauseAfter_eq_between a pacing
        rw [← hnext, Option.map_map] at hpause
        exact hpause
    | succ j => exact ih hk j made hj

/-! ## Calls -/

/-- The reports of some calls for a step, one after the other. -/
def reports (s : Sequence) (target : Option Nat) (pacing : Pacing) (c : Combat σ) (calls : Nat) :
    List Outcome :=
  match calls with
  | 0 => []
  | calls + 1 =>
    let after := s.step target pacing c
    after.report :: after.rest.reports target pacing after.combat calls

theorem reports_of_finished (h : s.step target pacing c = ⟨.finished, s, c⟩) (calls : Nat) :
    s.reports target pacing c calls = List.replicate calls .finished := by
  induction calls with
  | zero => rfl
  | succ calls ih =>
    rw [reports, h, List.replicate_succ]
    exact congrArg (List.cons _) ih

/-- Calls report the boundaries of a run that succeeds, and then that it is done, for ever. -/
theorem reports_of_run_ok {n : Nat} (h : (s.run target pacing c).report = .ok n) (calls : Nat) :
    s.reports target pacing c (n + calls) =
      (s.walk target pacing c).map (fun made => .committed made.2) ++
        List.replicate calls .finished := by
  induction s, c using @run_induction σ _ target pacing generalizing n with
  | finished s c hp hstep =>
    rw [run_of_finished hstep] at h
    cases h
    rw [walk_of_finished hstep, Nat.zero_add]
    exact reports_of_finished hstep calls
  | failed s c a tail fault hp hr hstep =>
    rw [run_of_failed hstep] at h
    cases h
  | committed s c a tail places source hp hr hstep ih =>
    rw [run_of_committed hstep] at h
    obtain ⟨k, hk, rfl⟩ := After.exists_of_report_behind h
    rw [walk_of_committed hp hstep, show 1 + k + calls = k + calls + 1 by omega, reports, hstep]
    exact congrArg (List.cons _) (ih hk)

/-- A run in which no call fails succeeds. -/
theorem exists_run_ok (h : ∀ calls fault, .failed fault ∉ s.reports target pacing c calls) :
    ∃ n, (s.run target pacing c).report = .ok n := by
  induction s, c using @run_induction σ _ target pacing with
  | finished s c hp hstep => exact ⟨0, by rw [run_of_finished hstep]⟩
  | failed s c a tail fault hp hr hstep =>
    refine absurd ?_ (h 1 fault)
    rw [reports, hstep]
    exact List.mem_cons_self
  | committed s c a tail places source hp hr hstep ih =>
    obtain ⟨k, hk⟩ := ih fun calls fault hmem => h (calls + 1) fault <| by
      rw [reports, hstep]
      exact List.mem_cons_of_mem _ hmem
    exact ⟨1 + k, by rw [run_of_committed hstep, After.behind, hk]; rfl⟩

/-- In a run that succeeds no call fails. -/
theorem not_failed_of_run_ok {n : Nat} (h : (s.run target pacing c).report = .ok n) (calls : Nat)
    (fault : Fault) : .failed fault ∉ s.reports target pacing c calls := by
  induction s, c using @run_induction σ _ target pacing generalizing n calls with
  | finished s c hp hstep =>
    rw [reports_of_finished hstep]
    exact fun hmem => nomatch List.eq_of_mem_replicate hmem
  | failed s c a tail fault hp hr hstep =>
    rw [run_of_failed hstep] at h
    cases h
  | committed s c a tail places source hp hr hstep ih =>
    rw [run_of_committed hstep] at h
    obtain ⟨k, hk, -⟩ := After.exists_of_report_behind h
    cases calls with
    | zero => exact List.not_mem_nil
    | succ calls =>
      rw [reports, hstep]
      exact List.not_mem_cons_of_ne_of_not_mem nofun (ih hk calls)

end Sequence

/-! ## Recipients -/

variable {σ : Type} [Chance σ]

/-- Whom an attack strikes is never nobody, and stands in the order of the pool. -/
theorem Targeting.recipients_increasing {t : Targeting} {size : Nat} {declared : Option Nat}
    {source source' : σ} {places : List Nat}
    (h : t.recipients size declared source = .ok (places, source')) :
    places ≠ [] ∧ places.Pairwise (· < ·) := by
  rcases cases_recipients h with ⟨-, hs, rfl, -⟩ | ⟨-, -, rfl, -⟩ | ⟨-, i, -, -, rfl, -⟩
  · exact ⟨fun hnil => hs (List.range_eq_nil.1 hnil), List.pairwise_lt_range⟩
  · exact ⟨List.cons_ne_nil _ _, List.pairwise_singleton _ _⟩
  · exact ⟨List.cons_ne_nil _ _, List.pairwise_singleton _ _⟩

/-- What a boundary says about a step of an action among `size` opponents. -/
structure Boundary.Names (b : Boundary) (a : Action) (size : Nat) : Prop where
  nobody : a.targeting? = none → b.recipients = []
  somebody : a.targeting?.isSome → b.recipients ≠ []
  increasing : b.recipients.Pairwise (· < ·)
  lt : ∀ i ∈ b.recipients, i < size

namespace Sequence

variable [LawfulChance σ]

theorem names_boundary (s : Sequence) {a : Action} {target : Option Nat} {size : Nat}
    {source source' : σ} {places : List Nat}
    (h : a.reach s.origin target size source = .ok (places, source')) (pacing : Pacing) :
    (s.boundary a places pacing).Names a size := by
  cases a with
  | attack a =>
    obtain ⟨hne, hincreasing⟩ := Targeting.recipients_increasing h
    exact ⟨nofun, fun _ => hne, hincreasing, fun i hi => Targeting.lt_of_mem_recipients h hi⟩
  | _ => exact ⟨fun _ => rfl, nofun, .nil, List.forall_mem_nil _⟩

theorem names_walk (s : Sequence) (target : Option Nat) (pacing : Pacing) (c : Combat σ) :
    ∀ made ∈ s.walk target pacing c, made.2.Names made.1 c.pool.length := by
  induction s, c using @run_induction σ _ target pacing with
  | finished s c hp hstep =>
    rw [walk_of_finished hstep]
    exact List.forall_mem_nil _
  | failed s c a tail fault hp hr hstep =>
    rw [walk_of_failed hstep]
    exact List.forall_mem_nil _
  | committed s c a tail places source hp hr hstep ih =>
    rw [walk_of_committed hp hstep]
    rw [Combat.length_pool_carryOut] at ih
    exact List.forall_mem_cons.2 ⟨s.names_boundary hr pacing, ih⟩

end Sequence

/-! ## Plans -/

/-- A plan that succeeds goes through all rounds of its actions. -/
theorem Plan.map_walk {p : Plan} {target : Option Nat} {pacing : Pacing} {c : Combat σ} {n : Nat}
    (h : (p.sequence.run target pacing c).report = .ok n) :
    (p.sequence.walk target pacing c).map (fun (a, b) => (a, b.action, b.round)) =
      rounds p.actions := by
  rw [Sequence.map_walk h, Sequence.ahead_of_round_zero p.round_sequence, p.pending_sequence,
    p.behind_sequence]

/-- When no step of a plan fails, the steps go through all rounds of its actions in order, and from
then on there is none left. Each tells its place, whether another one follows, how long to pause
before it, and whom it struck. -/
theorem step_boundaries [LawfulChance σ] (p : Plan) (target : Option Nat) (pacing : Pacing)
    (c : Combat σ) (h : ∀ calls fault, .failed fault ∉ p.sequence.reports target pacing c calls) :
    ∃ boundaries : List Boundary,
      (∀ more, p.sequence.reports target pacing c (boundaries.length + more) =
        boundaries.map .committed ++ List.replicate more .finished) ∧
      boundaries.map (fun b => (b.action, b.round)) =
        p.actions.zipIdx.flatMap (fun (a, i) => (List.range a.steps).map fun k => (i, k)) ∧
      (∀ j b, boundaries[j]? = some b →
        (b.more ↔ j + 1 < boundaries.length) ∧
          b.pause = pacing.between b.action (boundaries[j + 1]?.map Boundary.action)) ∧
      ∀ b ∈ boundaries, ∃ a, p.actions[b.action]? = some a ∧ b.Names a c.pool.length := by
  obtain ⟨n, hok⟩ := Sequence.exists_run_ok h
  have hwalk := Plan.map_walk hok
  refine ⟨(p.sequence.walk target pacing c).map Prod.snd, fun more => ?_, ?_, fun j b hj => ?_,
    fun b hb => ?_⟩
  · rw [List.length_map, Sequence.length_walk hok, Sequence.reports_of_run_ok hok, List.map_map]
    rfl
  · have hplaces := congrArg (List.map Prod.snd) hwalk
    simp only [rounds, List.map_flatMap, List.map_map, Function.comp_def] at hplaces
    rw [List.map_map]
    exact hplaces
  · rw [List.getElem?_map, Option.map_eq_some_iff] at hj
    obtain ⟨made, hj, rfl⟩ := hj
    obtain ⟨hmore, hpause⟩ := Sequence.linked_walk hok j made hj
    rw [hmore, hpause, List.getElem?_map, Option.map_map, List.length_map, isSome_getElem?]
    exact ⟨Iff.rfl, rfl⟩
  · obtain ⟨⟨a, b⟩, hmade, rfl⟩ := List.mem_map.1 hb
    have hround : (a, b.action, b.round) ∈ rounds p.actions := by
      rw [← hwalk]
      exact List.mem_map_of_mem hmade
    exact ⟨a, getElem?_of_mem_rounds hround, p.sequence.names_walk target pacing c _ hmade⟩

/-- Two strikes at random, an attack of no times, and a heal behind them. -/
theorem step_boundaries_mixed :
    let c : Combat Script :=
      { actor := .fresh 30, pool := [.fresh 9, .fresh 9], source := { indices := #[1, 0] } }
    let p : Plan := .bare [.attack { amount := 4, random := true, times := 2 },
      .attack { amount := 1, area := true, times := 0 }, .heal 3]
    (∀ calls fault, .failed fault ∉ p.sequence.reports none {} c calls) ∧
      ∃ boundaries : List Boundary,
        (∀ more, p.sequence.reports none {} c (boundaries.length + more) =
          boundaries.map .committed ++ List.replicate more .finished) ∧
        boundaries.map (fun b => (b.action, b.round)) = [(0, 0), (0, 1), (1, 0), (2, 0)] ∧
        ∀ b ∈ boundaries, ∃ a, p.actions[b.action]? = some a ∧ b.Names a 2 := by
  intro c p
  have hok : (p.sequence.run none {} c).report = .ok 4 := by
    rw [p.run_sequence]
    decide +kernel
  have h := Sequence.not_failed_of_run_ok hok
  obtain ⟨boundaries, hreports, hplaces, -, hnames⟩ := step_boundaries p none {} c h
  exact ⟨h, boundaries, hreports, hplaces, hnames⟩

end Skirmish
