import Skirmish.Proofs.Feasible
import Skirmish.Proofs.Walk

/-!
# Runs in parts

A plan need not be carried out in one go. It may be driven step by step, with a pacing of its own
for each, and run to its end from wherever that stopped (`enact_eq_paced`). A list may be cut in two
(`perform_append`), and the rounds of its attacks may be written out as actions of their own
(`enact_unrolled`). None of this shows in what is left behind.
-/

namespace Skirmish

variable {σ : Type}

theorem After.behind_zero (a : After (Except Fault Nat) σ) : a.behind 0 = a := by
  obtain ⟨report, rest, combat⟩ := a
  cases report <;> simp [behind, Except.map]

/-- Goes on from where something stopped, unless it failed. -/
def After.onward (a : After (Except Fault Nat) σ)
    (go : Sequence → Combat σ → After (Except Fault Nat) σ) : After (Except Fault Nat) σ :=
  match a with
  | ⟨.error fault, rest, c⟩ => ⟨.error fault, rest, c⟩
  | ⟨.ok made, rest, c⟩ => (go rest c).behind made

theorem After.onward_behind (a : After (Except Fault Nat) σ) (count : Nat)
    (go : Sequence → Combat σ → After (Except Fault Nat) σ) :
    (a.behind count).onward go = (a.onward go).behind count := by
  obtain ⟨report, rest, combat⟩ := a
  cases report with
  | error fault => rfl
  | ok made => exact (After.behind_behind _ _ _).symm

variable [Chance σ]

/-! ## Steps -/

namespace Sequence

/-- Makes a step for each pacing, as long as there are steps and none fails, and counts them. -/
def paced (s : Sequence) (target : Option Nat) (pacings : List Pacing) (c : Combat σ) :
    After (Except Fault Nat) σ :=
  match pacings with
  | [] => ⟨.ok 0, s, c⟩
  | pacing :: pacings =>
    match s.step target pacing c with
    | ⟨.finished, rest, c⟩ => ⟨.ok 0, rest, c⟩
    | ⟨.failed fault, rest, c⟩ => ⟨.error fault, rest, c⟩
    | ⟨.committed _, rest, c⟩ => (rest.paced target pacings c).behind 1

/-- Pacing is a hint. -/
theorem run_pacing (s : Sequence) (target : Option Nat) (pacing pacing' : Pacing) (c : Combat σ) :
    s.run target pacing c = s.run target pacing' c := by
  cases hp : s.pending with
  | nil =>
    rw [run_of_finished (step_of_pending_nil hp target pacing c),
      run_of_finished (step_of_pending_nil hp target pacing' c)]
  | cons a rest =>
    have h : s.pending = [] → s.round = 0 := by
      intro hnil
      rw [hp] at hnil
      cases hnil
    rw [run_eq_course s target pacing c h, run_eq_course s target pacing' c h]

/-- A run goes on where single steps have stopped, and counts them. -/
theorem run_eq_paced (s : Sequence) (target : Option Nat) (pacings : List Pacing)
    (pacing : Pacing) (c : Combat σ) :
    s.run target pacing c =
      (s.paced target pacings c).onward fun rest c => rest.run target pacing c := by
  induction pacings generalizing s c with
  | nil => exact (After.behind_zero _).symm
  | cons first pacings ih =>
    -- The run may take the pacing of the first step for this step and any other behind it.
    rcases s.cases_step target first c with
      ⟨hp, h⟩ | ⟨a, tail, -, ⟨fault, -, h⟩ | ⟨places, source, -, h⟩⟩
    · rw [paced, h]
      exact (After.behind_zero _).symm
    · rw [s.run_pacing target pacing first, run_of_failed h, paced, h]
      rfl
    · rw [s.run_pacing target pacing first, run_of_committed h,
        (s.advance a).run_pacing target first pacing, ih, paced, h]
      exact (After.onward_behind _ _ _).symm

theorem paced_of_finished {s : Sequence} {target : Option Nat} {c : Combat σ}
    (hp : s.pending = []) (pacings : List Pacing) : s.paced target pacings c = ⟨.ok 0, s, c⟩ := by
  cases pacings with
  | nil => rfl
  | cons pacing pacings => rw [paced, step_of_pending_nil hp]

/-- So do more single steps. -/
theorem paced_append (s : Sequence) (target : Option Nat) (pacings more : List Pacing)
    (c : Combat σ) :
    s.paced target (pacings ++ more) c =
      (s.paced target pacings c).onward fun rest c => rest.paced target more c := by
  induction pacings generalizing s c with
  | nil => exact (After.behind_zero _).symm
  | cons first pacings ih =>
    rw [List.cons_append, paced, paced]
    rcases s.cases_step target first c with
      ⟨hp, h⟩ | ⟨a, tail, -, ⟨fault, -, h⟩ | ⟨places, source, -, h⟩⟩
    · rw [h]
      show _ = (s.paced target more c).behind 0
      rw [paced_of_finished hp, After.behind_zero]
    · rw [h]
      rfl
    · rw [h]
      dsimp only
      rw [ih, After.onward_behind]

end Sequence

/-- However many steps a plan is driven by hand, each with a pacing of its own, and whatever the
pacing of the run behind them: it ends as it does in one go. Steps that were made and steps that
are left add up. -/
theorem enact_eq_paced (c : Combat σ) (p : Plan) (target : Option Nat) (pacings : List Pacing)
    (pacing : Pacing) :
    c.enact p target =
      match p.sequence.paced target pacings c with
      | ⟨.error fault, _, c⟩ => (.error fault, c)
      | ⟨.ok made, rest, c⟩ =>
        let last := rest.run target pacing c
        (last.report.map (made + ·), last.combat) := by
  have hrun := p.sequence.run_eq_paced target pacings pacing c
  rw [Combat.enact_eq_follow, Combat.follow, p.sequence.run_pacing target {} pacing, hrun]
  generalize p.sequence.paced target pacings c = after
  obtain ⟨report, rest, last⟩ := after
  cases report <;> rfl

/-! ## Lists -/

/-- Two lists joined are carried out as the first and then, if that succeeds, the second. -/
theorem perform_append (c : Combat σ) (xs ys : List Action) (target : Option Nat) :
    c.perform (xs ++ ys) target =
      match c.perform xs target with
      | (.error fault, c) => (.error fault, c)
      | (.ok n, c) => ((c.perform ys target).1.map (n + ·), (c.perform ys target).2) := by
  have hperform (c : Combat σ) (list : List Action) : c.perform list target =
      ((course (Combat.round {} target) (Sequence.dues list) c).report,
        (course (Combat.round {} target) (Sequence.dues list) c).state) :=
    c.enact_eq_course (.bare list) target
  simp only [hperform, Sequence.dues_append]
  -- Behind the rounds of `xs` more actions wait than in a list of its own, which does not matter.
  obtain ⟨hreport, hstate⟩ := course_map_left (Combat.round {} target) (· ++ ys)
    (Sequence.dues xs) c
  rw [← hreport, ← hstate]
  generalize (Sequence.dues xs).map (Prod.map id (· ++ ys)) = dues
  cases h : (course (Combat.round {} target) dues c).report with
  | error fault => rw [course_append_of_error _ h, h]
  | ok n =>
    rw [course_append_of_ok _ h]
    rfl

/-! ## Rounds -/

/-- One round of an attack, as an attack of its own. -/
def Attack.once (a : Attack) : Attack :=
  { a with times := 1 }

/-- The rounds of an attack, written out. An attack of no times stays as it is. -/
def Action.unrolled : Action → List Action
  | .attack a =>
    if 1 ≤ a.times.toNat then List.replicate a.times.toNat (.attack a.once) else [.attack a]
  | a => [a]

def Plan.unrolled (p : Plan) : Plan := p.only (p.actions.flatMap Action.unrolled)

theorem Sequence.map_dues {β : Type} (f : Action → β) (actions : List Action) :
    (dues actions).map (fun due => f due.1) =
      actions.flatMap fun a => List.replicate a.steps (f a) := by
  induction actions with
  | nil => rfl
  | cons a rest ih => simp [dues, ih]

/-- A round does not know how often its attack is made. -/
theorem Combat.round_once (origin : Origin) (target : Option Nat) (a : Attack) :
    (Combat.round origin target (.attack a.once) : Combat σ → _) =
      Combat.round origin target (.attack a) := rfl

/-- Written out or not, an action has the same rounds. -/
theorem Action.rounds_unrolled (a : Action) (origin : Origin) (target : Option Nat) :
    (a.unrolled.flatMap fun b =>
        List.replicate b.steps (Combat.round origin target b : Combat σ → _)) =
      List.replicate a.steps (Combat.round origin target a) := by
  cases a with
  | attack a =>
    by_cases htimes : 1 ≤ a.times.toNat
    · have hsteps : (attack a).steps = a.times.toNat := Nat.max_eq_right htimes
      have honce : (attack a.once).steps = 1 := rfl
      rw [unrolled, if_pos htimes, List.flatMap_replicate, honce, hsteps, Combat.round_once]
      exact List.flatten_replicate_singleton
    · rw [unrolled, if_neg htimes]
      exact List.flatMap_singleton _ _
  | _ => exact List.flatMap_singleton _ _

/-- Whether the rounds of attacks are counted or written out, a plan is carried out alike. -/
theorem enact_unrolled (c : Combat σ) (p : Plan) (target : Option Nat) :
    c.enact p.unrolled target = c.enact p target := by
  -- The rounds do the same one after the other, whichever actions they belong to.
  have hrounds :
      p.unrolled.dues.map (fun due => (Combat.round p.origin target due.1 : Combat σ → _)) =
        p.dues.map fun due => Combat.round p.origin target due.1 := by
    unfold Plan.dues Plan.unrolled
    rw [Sequence.map_dues, Sequence.map_dues, Plan.actions_only, List.flatMap_assoc]
    simp only [Action.rounds_unrolled]
  obtain ⟨hreport, hstate⟩ := course_congr hrounds c
  rw [Combat.enact_eq_course, Combat.enact_eq_course]
  unfold Combat.courseOf
  rw [show p.unrolled.origin = p.origin from p.origin_only _, hreport, hstate]

end Skirmish
