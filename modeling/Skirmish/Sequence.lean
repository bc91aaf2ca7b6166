import Skirmish.Combat
import Skirmish.Pacing

/-!
# Sequences

A sequence walks through a list of actions one step at a time: an action, or one round of a
repeated attack. It may be left after any step; what was done stays done. A step that fails leaves
the combat as it was, and the sequence goes on behind the failed action.

`step` makes one step, with a target and a pacing of its own. `run` makes all that are left, up to
the first fault; `remaining` bounds how many these are.
-/

namespace Skirmish

structure Sequence where
  origin : Origin := {}
  /-- The action under way and those after it. -/
  pending : List Action
  /-- How many actions lie behind. -/
  behind : Nat := 0
  /-- How many rounds of the action under way lie behind. -/
  round : Nat := 0
  deriving DecidableEq, Repr

/-- What a step reports once it is made. -/
structure Boundary where
  /-- The place of the action in the whole list. -/
  action : Nat
  /-- The round of the action. -/
  round : Nat
  /-- The places that an attack struck, in order. -/
  recipients : List Nat
  /-- A pause before the next step, in milliseconds. -/
  pause : UInt64
  /-- There is a next step. -/
  more : Bool
  deriving DecidableEq, Repr

/-- How a step went. -/
inductive Outcome where
  /-- No step was left. -/
  | finished
  | failed (fault : Fault)
  | committed (boundary : Boundary)
  deriving DecidableEq, Repr

/-- What there is after something was tried: its report, the sequence and the combat. -/
structure After (α σ : Type) where
  report : α
  rest : Sequence
  combat : Combat σ

/-- A run after some steps that were made before it. -/
def After.behind {σ : Type} (a : After (Except Fault Nat) σ) (count : Nat) :
    After (Except Fault Nat) σ :=
  { a with report := a.report.map (count + ·) }

theorem After.behind_behind {σ : Type} (a : After (Except Fault Nat) σ) (m n : Nat) :
    (a.behind m).behind n = a.behind (n + m) := by
  cases a with
  | mk report rest combat => cases report <;> simp [behind, Except.map, Nat.add_assoc]

namespace Sequence

variable {σ : Type} [Chance σ]

def done (s : Sequence) : Bool := s.pending.isEmpty

/-- A pause before the first step. -/
def pauseBefore (s : Sequence) (pacing : Pacing) : UInt64 :=
  if s.done then 0 else pacing.action

/-- The sequence behind the action under way. -/
def nextAction (s : Sequence) : Sequence :=
  { s with pending := s.pending.tail, behind := s.behind + 1, round := 0 }

def nextRound (s : Sequence) : Sequence :=
  { s with round := s.round + 1 }

/-- Behind a step of `a` that was made. -/
def advance (s : Sequence) (a : Action) : Sequence :=
  if s.round + 1 < a.times.toNat then s.nextRound else s.nextAction

/-- The pause before the next step, after a step of `a`. -/
def pauseAfter (s : Sequence) (a : Action) (pacing : Pacing) : UInt64 :=
  if (s.advance a).done then 0
  else if s.round + 1 < a.times.toNat then pacing.attack
  else pacing.action

/-- The report of a step of `a` that affected some places. -/
def boundary (s : Sequence) (a : Action) (places : List Nat) (pacing : Pacing) : Boundary where
  action := s.behind
  round := s.round
  recipients := if a.targeting?.isSome then places else []
  pause := s.pauseAfter a pacing
  more := !(s.advance a).done

def step (s : Sequence) (target : Option Nat) (pacing : Pacing) (c : Combat σ) :
    After Outcome σ :=
  match s.pending with
  | [] => ⟨.finished, s, c⟩
  | a :: _ =>
    match a.reach s.origin target c.pool.length c.source with
    | .error fault => ⟨.failed fault, s.nextAction, c⟩
    | .ok (places, source) =>
      ⟨.committed (s.boundary a places pacing), s.advance a,
        { c with source }.carryOut a s.origin places⟩

theorem step_of_pending_nil {s : Sequence} (h : s.pending = []) (target : Option Nat)
    (pacing : Pacing) (c : Combat σ) : s.step target pacing c = ⟨.finished, s, c⟩ := by
  simp [step, h]

/-- A step that fails changes nothing but the sequence. -/
theorem step_of_reach_error {s : Sequence} {a : Action} {rest : List Action}
    (h : s.pending = a :: rest) {target : Option Nat} {c : Combat σ} {fault : Fault}
    (hr : a.reach s.origin target c.pool.length c.source = .error fault) (pacing : Pacing) :
    s.step target pacing c = ⟨.failed fault, s.nextAction, c⟩ := by
  simp [step, h, hr]

theorem step_of_reach_ok {s : Sequence} {a : Action} {rest : List Action}
    (h : s.pending = a :: rest) {target : Option Nat} {c : Combat σ} {places : List Nat}
    {source : σ} (hr : a.reach s.origin target c.pool.length c.source = .ok (places, source))
    (pacing : Pacing) :
    s.step target pacing c =
      ⟨.committed (s.boundary a places pacing), s.advance a,
        { c with source }.carryOut a s.origin places⟩ := by
  simp [step, h, hr]

/-! ## Runs -/

/-- How many steps are left when none fails. -/
def remaining (s : Sequence) : Nat :=
  match s.pending with
  | [] => 0
  | a :: rest => max 1 (a.times.toNat - s.round) + rest.foldr (·.steps + ·) 0

theorem remaining_nextAction_lt {s : Sequence} {a : Action} {rest : List Action}
    (h : s.pending = a :: rest) : s.nextAction.remaining < s.remaining := by
  unfold remaining nextAction
  rw [h]
  cases rest with
  | nil => simp only [List.tail_cons]; omega
  | cons b rest => simp only [List.tail_cons, List.foldr_cons, Action.steps]; omega

theorem remaining_advance_lt {s : Sequence} {a : Action} {rest : List Action}
    (h : s.pending = a :: rest) : (s.advance a).remaining < s.remaining := by
  unfold advance
  split
  · simp only [remaining, nextRound, h]
    omega
  · exact remaining_nextAction_lt h

/-- A step that is made leaves fewer steps. -/
theorem remaining_step_lt {s : Sequence} {target : Option Nat} {pacing : Pacing} {c : Combat σ}
    {b : Boundary} (h : (s.step target pacing c).report = .committed b) :
    (s.step target pacing c).rest.remaining < s.remaining := by
  unfold step at h ⊢
  split at h
  · cases h
  · rename_i a rest hs
    split at h
    · cases h
    · rename_i places source hr
      exact remaining_advance_lt hs

/-- Makes every step that is left, up to the first fault, and counts those made. -/
def run (s : Sequence) (target : Option Nat) (pacing : Pacing) (c : Combat σ) :
    After (Except Fault Nat) σ :=
  go 0 s c
where
  go (count : Nat) (s : Sequence) (c : Combat σ) : After (Except Fault Nat) σ :=
    match h : s.step target pacing c with
    | ⟨.finished, rest, c⟩ => ⟨.ok count, rest, c⟩
    | ⟨.failed fault, rest, c⟩ => ⟨.error fault, rest, c⟩
    | ⟨.committed _, rest, c⟩ => go (count + 1) rest c
  termination_by s.remaining
  decreasing_by
    simpa [h] using remaining_step_lt (congrArg After.report h)

/-- Steps made before are only added to the count. -/
theorem run_go (target : Option Nat) (pacing : Pacing) (count : Nat) (s : Sequence)
    (c : Combat σ) : run.go target pacing count s c = (s.run target pacing c).behind count := by
  unfold run
  induction hs : s.remaining using Nat.strongRecOn generalizing s c count with
  | _ m ih =>
    unfold run.go
    split
    · simp [After.behind, Except.map]
    · simp [After.behind, Except.map]
    · rename_i b rest c' h
      have hlt := remaining_step_lt (congrArg After.report h)
      simp only [h] at hlt
      rw [ih _ (by omega) (count + 1) rest c' rfl, ih _ (by omega) (0 + 1) rest c' rfl,
        After.behind_behind, Nat.zero_add]

theorem run_of_finished {s rest : Sequence} {target : Option Nat} {pacing : Pacing}
    {c c' : Combat σ} (h : s.step target pacing c = ⟨.finished, rest, c'⟩) :
    s.run target pacing c = ⟨.ok 0, rest, c'⟩ := by
  unfold run run.go
  split <;> simp_all

theorem run_of_failed {s rest : Sequence} {target : Option Nat} {pacing : Pacing}
    {c c' : Combat σ} {fault : Fault}
    (h : s.step target pacing c = ⟨.failed fault, rest, c'⟩) :
    s.run target pacing c = ⟨.error fault, rest, c'⟩ := by
  unfold run run.go
  split <;> simp_all

/-- A run makes one step and the run of what is left. -/
theorem run_of_committed {s rest : Sequence} {target : Option Nat} {pacing : Pacing}
    {c c' : Combat σ} {b : Boundary}
    (h : s.step target pacing c = ⟨.committed b, rest, c'⟩) :
    s.run target pacing c = (rest.run target pacing c').behind 1 := by
  rw [← run_go]
  unfold run
  rw [run.go]
  split <;> simp_all

end Sequence

end Skirmish
