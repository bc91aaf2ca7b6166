import Skirmish.Proofs.Course

/-!
# Plans

What a combat can be told to carry out in one go: a bare list of actions, or a card. `enact` does
it, and `enact_eq_course` says that this is the course of all rounds of the plan's actions.
-/

namespace Skirmish

inductive Plan where
  | bare (list : List Action)
  | card (k : Card)
  deriving DecidableEq, Repr

namespace Plan

def actions : Plan → List Action
  | .bare list => list
  | .card k => k.actions

def origin : Plan → Origin
  | .bare _ => {}
  | .card k => { slot := some k.slot, aim := k.aim }

/-- The sequence that stands before the first action of the plan. -/
def sequence : Plan → Sequence
  | .bare list => .ofActions list
  | .card k => .ofCard k

@[simp] theorem origin_sequence (p : Plan) : p.sequence.origin = p.origin := by
  cases p <;> rfl

@[simp] theorem pending_sequence (p : Plan) : p.sequence.pending = p.actions := by
  cases p <;> rfl

@[simp] theorem behind_sequence (p : Plan) : p.sequence.behind = 0 := by
  cases p <;> rfl

@[simp] theorem round_sequence (p : Plan) : p.sequence.round = 0 := by
  cases p <;> rfl

theorem sequence_eq (p : Plan) : p.sequence = { origin := p.origin, pending := p.actions } := by
  cases p <;> rfl

/-- The rounds of the plan. -/
def dues (p : Plan) : List Due := Sequence.dues p.actions

@[simp] theorem schedule_sequence (p : Plan) : p.sequence.schedule = p.dues := by
  rw [Sequence.schedule_of_round_zero p.round_sequence, pending_sequence]
  rfl

end Plan

variable {σ : Type} [Chance σ]

/-- Carries out a plan. -/
def Combat.enact (c : Combat σ) (p : Plan) (target : Option Nat) : Except Fault Nat × Combat σ :=
  match p with
  | .bare list => c.perform list target
  | .card k => c.play k target

theorem Combat.enact_eq_follow (c : Combat σ) (p : Plan) (target : Option Nat) :
    c.enact p target = c.follow p.sequence target := by
  cases p <;> rfl

/-- The course of a plan. -/
def Combat.courseOf (c : Combat σ) (p : Plan) (target : Option Nat) : Course (Combat σ) :=
  course (Combat.round p.origin target) p.dues c

theorem Plan.run_sequence (p : Plan) (target : Option Nat) (pacing : Pacing) (c : Combat σ) :
    p.sequence.run target pacing c =
      ⟨(c.courseOf p target).report,
        { origin := p.origin
          pending := (c.courseOf p target).left
          behind := p.actions.length - (c.courseOf p target).left.length },
        (c.courseOf p target).state⟩ := by
  rw [Sequence.run_eq_course p.sequence target pacing c fun _ => p.round_sequence]
  simp [Combat.courseOf]

theorem Combat.enact_eq_course (c : Combat σ) (p : Plan) (target : Option Nat) :
    c.enact p target = ((c.courseOf p target).report, (c.courseOf p target).state) := by
  rw [enact_eq_follow, follow, p.run_sequence]

/-- What every round of a plan keeps, the plan keeps. -/
theorem Combat.enact_keeps {I : Combat σ → Prop} {p : Plan} {target : Option Nat}
    (hround : ∀ a ∈ p.actions, ∀ c c', I c → c.round p.origin target a = .ok c' → I c')
    {c : Combat σ} (h : I c) : I (c.enact p target).2 := by
  rw [enact_eq_course]
  exact course_keeps p.dues (fun due hd => hround due.1 (Sequence.mem_dues hd)) h

end Skirmish
