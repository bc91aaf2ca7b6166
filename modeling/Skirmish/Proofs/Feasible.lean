import Skirmish.Chance.Script
import Skirmish.Proofs.Combat.Sound
import Skirmish.Proofs.Plan

/-!
# Feasible actions

Whether an action can be carried out is known beforehand: `obstacle?` asks only for the aim of its
card, the declared target and the size of the pool, none of which ever changes. So a plan succeeds
when no action of it meets an obstacle, and otherwise fails at the first that does, as if only the
actions before it had been there (`courseOf_of_obstacle`); what is left of it then is the plan of
the actions behind.
-/

namespace Skirmish

variable {σ : Type} [Chance σ]

/-- Nobody stands where the target is declared. -/
def misses (target : Option Nat) (size : Nat) : Bool :=
  match target with
  | none => true
  | some i => size ≤ i

/-- What keeps an action from being carried out, if anything does. -/
def Action.obstacle? (a : Action) (aim : Aim) (target : Option Nat) (size : Nat) : Option Fault :=
  match a with
  | attack a =>
    match a.targeting with
    | .everyone | .random => if size = 0 then some .noCandidates else none
    | .declared => if misses target size then some .noTarget else none
  | burn _ | poison _ => if misses target size then some .noTarget else none
  | defend _ => if aim = .opponent ∧ misses target size then some .noTarget else none
  | _ => none

/-- A declared target is reached unless nobody stands there. -/
theorem recipients_declared (target : Option Nat) (size : Nat) (source : σ) :
    (∃ fault, (if misses target size then some Fault.noTarget else none) = some fault ∧
        Targeting.declared.recipients size target source = .error fault) ∨
      ((if misses target size then some Fault.noTarget else none) = none ∧
        ∃ r, Targeting.declared.recipients size target source = .ok r) := by
  cases target with
  | none => exact .inl ⟨_, rfl, rfl⟩
  | some i =>
    by_cases hi : i < size
    · refine .inr ⟨by simpa [misses] using hi, ([i], source), ?_⟩
      simp [Targeting.recipients, hi]
    · refine .inl ⟨.noTarget, by simpa [misses] using hi, ?_⟩
      simp [Targeting.recipients, hi]

/-- An action reaches its places, whatever the source of chance, unless it meets an obstacle. -/
theorem reach_obstacle? (a : Action) (origin : Origin) (target : Option Nat) (size : Nat)
    (source : σ) :
    (∃ fault, a.obstacle? origin.aim target size = some fault ∧
        a.reach origin target size source = .error fault) ∨
      (a.obstacle? origin.aim target size = none ∧
        ∃ r, a.reach origin target size source = .ok r) := by
  have hdeclared := recipients_declared target size source
  cases a with
  | attack a =>
    simp only [Action.obstacle?, Action.reach]
    cases a.targeting with
    | declared => exact hdeclared
    | _ =>
      by_cases hs : size = 0
      · exact .inl ⟨_, if_pos hs, if_pos hs⟩
      · exact .inr ⟨if_neg hs, _, if_neg hs⟩
  | defend n =>
    simp only [Action.obstacle?, Action.reach]
    by_cases ho : origin.aim = .opponent
    · simp only [ho, true_and, if_true]
      exact hdeclared
    · simp only [ho, false_and, if_false]
      exact .inr ⟨trivial, _, rfl⟩
  | burn n | poison n => exact hdeclared
  | _ => exact .inr ⟨rfl, _, rfl⟩

theorem reach_eq_error_iff {a : Action} {origin : Origin} {target : Option Nat} {size : Nat}
    {source : σ} {fault : Fault} : a.reach origin target size source = .error fault ↔
      a.obstacle? origin.aim target size = some fault := by
  rcases reach_obstacle? a origin target size source with ⟨e, he, hr⟩ | ⟨hn, r, hr⟩
  · rw [he, hr, Except.error.injEq, Option.some.injEq]
  · simp [hn, hr]

namespace Combat

variable {origin : Origin} {target : Option Nat} {c : Combat σ}

theorem round_of_obstacle {a : Action} {fault : Fault}
    (h : a.obstacle? origin.aim target c.pool.length = some fault) :
    c.round origin target a = .error fault :=
  round_eq_error_iff.2 (reach_eq_error_iff.2 h)

theorem round_of_feasible {a : Action}
    (h : a.obstacle? origin.aim target c.pool.length = none) :
    ∃ c', c.round origin target a = .ok c' := by
  rcases reach_obstacle? a origin target c.pool.length c.source with ⟨e, he, -⟩ | ⟨-, r, hr⟩
  · rw [h] at he
    cases he
  · exact ⟨_, round_eq_ok_iff.2 ⟨r.1, r.2, hr, rfl⟩⟩

/-- The pool keeps its size, so what is feasible at first stays so. -/
theorem course_of_feasible (dues : List Due)
    (h : ∀ due ∈ dues, due.1.obstacle? origin.aim target c.pool.length = none) :
    (course (round origin target) dues c).report = .ok dues.length ∧
      (course (round origin target) dues c).state.pool.length = c.pool.length := by
  induction dues generalizing c with
  | nil => exact ⟨rfl, rfl⟩
  | cons due dues ih =>
    obtain ⟨a, left⟩ := due
    obtain ⟨c', hr⟩ := round_of_feasible (h _ List.mem_cons_self)
    have hlen := length_pool_round hr
    rw [course_cons_of_ok hr]
    have hrest : ∀ due ∈ dues, due.1.obstacle? origin.aim target c'.pool.length = none := by
      rw [hlen]
      exact fun due hd => h due (List.mem_cons_of_mem _ hd)
    obtain ⟨hreport, hpool⟩ := ih hrest
    refine ⟨?_, hpool.trans hlen⟩
    rw [Course.after, hreport, List.length_cons, Nat.add_comm]
    rfl

end Combat

/-! ## Plans -/

/-- The same plan of other actions. -/
def Plan.only (p : Plan) (list : List Action) : Plan :=
  match p with
  | .bare _ => .bare list
  | .card k => .card { k with actions := list }

@[simp] theorem Plan.actions_only (p : Plan) (list : List Action) :
    (p.only list).actions = list := by
  cases p <;> rfl

@[simp] theorem Plan.origin_only (p : Plan) (list : List Action) :
    (p.only list).origin = p.origin := by
  cases p <;> rfl

/-- Rounds behind which more actions wait. -/
theorem Sequence.dues_append (list tail : List Action) :
    dues (list ++ tail) = (dues list).map (Prod.map id (· ++ tail)) ++ dues tail := by
  induction list with
  | nil => rfl
  | cons a list ih => simp [dues, ih]

/-- The actions left behind do not matter to rounds that are made. -/
theorem course_map_left {κ : Type} (round : Action → κ → Except Fault κ)
    (f : List Action → List Action) (dues : List Due) (c : κ) :
    (course round (dues.map (Prod.map id f)) c).report = (course round dues c).report ∧
      (course round (dues.map (Prod.map id f)) c).state = (course round dues c).state :=
  course_congr (by rw [List.map_map]; rfl) c

section
variable {c : Combat σ} {p : Plan} {target : Option Nat}

theorem Combat.courseOf_of_feasible
    (h : ∀ a ∈ p.actions, a.obstacle? p.origin.aim target c.pool.length = none) :
    (c.courseOf p target).report = .ok (p.actions.map Action.steps).sum ∧
      (c.courseOf p target).state.pool.length = c.pool.length := by
  have hc := course_of_feasible p.dues fun due hd => h due.1 (Sequence.mem_dues hd)
  rw [Plan.dues, Sequence.length_dues] at hc
  exact hc

/-- A plan fails at its first obstacle, where the plan of the actions before it ends. -/
theorem Combat.courseOf_of_obstacle {before behind : List Action} {a : Action} {fault : Fault}
    (hactions : p.actions = before ++ a :: behind)
    (hbefore : ∀ b ∈ before, b.obstacle? p.origin.aim target c.pool.length = none)
    (ha : a.obstacle? p.origin.aim target c.pool.length = some fault) :
    c.courseOf p target = ⟨.error fault, behind, (c.courseOf (p.only before) target).state⟩ := by
  have hfeasible : ∀ b ∈ (p.only before).actions,
      b.obstacle? (p.only before).origin.aim target c.pool.length = none := by
    simpa using hbefore
  obtain ⟨hreport, hpool⟩ := courseOf_of_feasible hfeasible
  obtain ⟨n, hn⟩ : ∃ n, a.steps = n + 1 := ⟨a.steps - 1, by have := a.steps_pos; omega⟩
  obtain ⟨hr, hs⟩ := course_map_left (Combat.round p.origin target) (· ++ a :: behind)
    (Sequence.dues before) c
  unfold courseOf Plan.dues at *
  rw [Plan.origin_only, Plan.actions_only] at *
  rw [hactions, Sequence.dues_append, course_append_of_ok _ (hr.trans hreport), hs, Sequence.dues,
    hn, List.replicate_succ, List.cons_append, course_cons_of_error (round_of_obstacle ?_)]
  · rfl
  · rw [hpool]
    exact ha

/-- Actions are all feasible, or there is a first that is not. -/
theorem exists_obstacle (actions : List Action) (obstacle? : Action → Option Fault) :
    (∀ a ∈ actions, obstacle? a = none) ∨
      ∃ before a behind fault, actions = before ++ a :: behind ∧
        (∀ b ∈ before, obstacle? b = none) ∧ obstacle? a = some fault := by
  induction actions with
  | nil => exact .inl fun a ha => by cases ha
  | cons a actions ih =>
    cases ha : obstacle? a with
    | some fault => exact .inr ⟨[], a, actions, fault, rfl, List.forall_mem_nil _, ha⟩
    | none =>
      rcases ih with h | ⟨before, b, behind, fault, rfl, hbefore, hb⟩
      · exact .inl (List.forall_mem_cons.2 ⟨ha, h⟩)
      · exact .inr ⟨a :: before, b, behind, fault, rfl, List.forall_mem_cons.2 ⟨ha, hbefore⟩, hb⟩

theorem Combat.enact_ok_iff {n : Nat} :
    (c.enact p target).1 = .ok n ↔
      (∀ a ∈ p.actions, a.obstacle? p.origin.aim target c.pool.length = none) ∧
        n = (p.actions.map Action.steps).sum := by
  rw [enact_eq_course]
  constructor
  · intro h
    rcases exists_obstacle p.actions (·.obstacle? p.origin.aim target c.pool.length) with
      hf | ⟨before, a, behind, fault, hactions, hbefore, ha⟩
    · rw [(courseOf_of_feasible hf).1] at h
      exact ⟨hf, (Except.ok.inj h).symm⟩
    · rw [courseOf_of_obstacle hactions hbefore ha] at h
      cases h
  · rintro ⟨hf, rfl⟩
    exact (courseOf_of_feasible hf).1

/-- A run does not know what lies behind it, only counts on from there. -/
theorem Sequence.run_behind (s : Sequence) (h : s.pending = [] → s.round = 0) (count : Nat)
    (target : Option Nat) (pacing : Pacing) (c : Combat σ) :
    let after := s.run target pacing c
    let after' := { s with behind := count + s.behind }.run target pacing c
    after'.report = after.report ∧ after'.combat = after.combat ∧
      after'.rest = { after.rest with behind := count + after.rest.behind } := by
  simp only
  rw [run_eq_course s target pacing c h,
    run_eq_course { s with behind := count + s.behind } target pacing c h]
  refine ⟨rfl, rfl, ?_⟩
  simp only [Nat.add_assoc]
  rfl

/-- Whether a plan succeeds is known before it begins: no action of it may meet an obstacle, and
then it takes as many steps as its actions have. Otherwise its fault is the first obstacle, and it
leaves the combat as the plan of the actions before it would, which succeeds. Whoever follows the
rest of the sequence then, at any time and with any target, follows the plan of the actions
behind. -/
theorem enact_until_obstacle (c : Combat σ) (p : Plan) (target : Option Nat) :
    (∀ n, (c.enact p target).1 = .ok n ↔
      (∀ a ∈ p.actions, a.obstacle? p.origin.aim target c.pool.length = none) ∧
        n = (p.actions.map Action.steps).sum) ∧
    ∀ (k : Nat) (hk : k < p.actions.length) (fault : Fault),
      (∀ a ∈ p.actions.take k, a.obstacle? p.origin.aim target c.pool.length = none) →
      p.actions[k].obstacle? p.origin.aim target c.pool.length = some fault →
      (c.enact p target).1 = .error fault ∧
      (∃ n, c.enact (p.only (p.actions.take k)) target = (.ok n, (c.enact p target).2)) ∧
      ∀ pacing : Pacing,
        (p.sequence.run target pacing c).report = .error fault ∧
        (p.sequence.run target pacing c).combat = (c.enact p target).2 ∧
        ∀ (target' : Option Nat) (pacing' : Pacing) (c' : Combat σ),
          let again := (p.sequence.run target pacing c).rest.run target' pacing' c'
          let fresh := (p.only (p.actions.drop (k + 1))).sequence.run target' pacing' c'
          again.report = fresh.report ∧ again.combat = fresh.combat ∧
            again.rest = { fresh.rest with behind := k + 1 + fresh.rest.behind } := by
  refine ⟨fun n => Combat.enact_ok_iff, fun k hk fault hbefore ha => ?_⟩
  have hactions : p.actions = p.actions.take k ++ p.actions[k] :: p.actions.drop (k + 1) := by
    rw [List.getElem_cons_drop, List.take_append_drop]
  have hcourse := Combat.courseOf_of_obstacle hactions hbefore ha
  rw [Combat.enact_eq_course, Combat.enact_eq_course, hcourse]
  refine ⟨rfl, ⟨_, Prod.ext (Combat.courseOf_of_feasible ?_).1 rfl⟩, fun pacing => ?_⟩
  · simpa using hbefore
  · rw [p.run_sequence, hcourse]
    refine ⟨rfl, rfl, fun target' pacing' c' => ?_⟩
    have hbehind : p.actions.length - (p.actions.drop (k + 1)).length = k + 1 + 0 := by
      rw [List.length_drop]
      omega
    simp only [hbehind, Plan.sequence_eq, Plan.origin_only, Plan.actions_only]
    exact Sequence.run_behind { origin := p.origin, pending := p.actions.drop (k + 1) }
      (fun _ => rfl) (k + 1) target' pacing' c'

end

/-- An attack on a place outside the pool, behind a heal and before a draw. -/
theorem enact_until_stray_attack :
    let c : Combat Script := { actor := .fresh 30, pool := [.fresh 5], source := {} }
    let p : Plan := .bare [.heal 2, .attack { amount := 1, times := 3 }, .draw 1]
    (∀ a ∈ p.actions.take 1, a.obstacle? p.origin.aim (some 4) c.pool.length = none) ∧
      (Action.attack { amount := 1, times := 3 }).obstacle? p.origin.aim (some 4) c.pool.length =
        some .noTarget ∧
      (c.enact p (some 4)).1 = .error .noTarget ∧
      ∃ n, c.enact (.bare [.heal 2]) (some 4) = (.ok n, (c.enact p (some 4)).2) := by
  intro c p
  have hbefore : ∀ a ∈ p.actions.take 1,
      a.obstacle? p.origin.aim (some 4) c.pool.length = none := by decide
  have ha : p.actions[1].obstacle? p.origin.aim (some 4) c.pool.length = some .noTarget := by decide
  obtain ⟨hreport, hprefix, -⟩ :=
    (enact_until_obstacle c p (some 4)).2 1 (by decide) .noTarget hbefore ha
  exact ⟨hbefore, ha, hreport, hprefix⟩

end Skirmish
