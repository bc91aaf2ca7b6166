import Skirmish.Chance.Script
import Skirmish.Proofs.Walk

/-!
# Attempts

Nobody has to drive a sequence through one combat. A `Turn` is one call for a step, and brings a
combat, a target, a pacing and a kind of chance of its own. A `Log` holds the sequence and all that
the turns so far have attempted: each turn attempts one round, until no action is left.

`Log.Orderly` says how far a log can go astray, which is not at all. One turn keeps it
(`Orderly.next`), since a step moves to the next round of the action under way, or else to the next
action, and does the latter whenever it fails. So every log is orderly, whatever worlds its turns
have met (`orderly_attempts`).
-/

namespace Skirmish

/-- A call for a step, and the world that it meets. -/
structure Turn : Type 1 where
  {σ : Type}
  [chance : Chance σ]
  target : Option Nat
  pacing : Pacing
  combat : Combat σ

attribute [instance] Turn.chance

namespace Turn

def step (t : Turn) (s : Sequence) : After Outcome t.σ :=
  s.step t.target t.pacing t.combat

variable {t : Turn} {s : Sequence}

theorem step_of_done (t : Turn) (h : s.done) : t.step s = ⟨.finished, s, t.combat⟩ :=
  Sequence.step_of_pending_nil (List.isEmpty_iff.1 h) t.target t.pacing t.combat

theorem finished_iff_done (t : Turn) : (t.step s).report = .finished ↔ s.done := by
  refine ⟨fun hreport => ?_, fun hdone => congrArg After.report (t.step_of_done hdone)⟩
  unfold step at hreport
  rcases s.cases_step t.target t.pacing t.combat with
    ⟨hp, -⟩ | ⟨a, rest, -, ⟨fault, -, h⟩ | ⟨places, source, -, h⟩⟩
  · exact List.isEmpty_iff.2 hp
  · rw [h] at hreport
    cases hreport
  · rw [h] at hreport
    cases hreport

/-- A step that fails leaves no trace. -/
theorem combat_of_failed (t : Turn) {fault : Fault} (hreport : (t.step s).report = .failed fault) :
    (t.step s).combat = t.combat := by
  unfold step at hreport ⊢
  rcases s.cases_step t.target t.pacing t.combat with
    ⟨-, h⟩ | ⟨a, rest, -, ⟨fault, -, h⟩ | ⟨places, source, -, h⟩⟩
  · rw [h]
  · rw [h]
  · rw [h] at hreport
    cases hreport

end Turn

/-- A round of an action that was attempted, and the fault if it was not made. -/
structure Attempt where
  action : Nat
  round : Nat
  fault : Option Fault
  deriving DecidableEq, Repr

/-- The other attempt is of a later action, or of a later round if this one was made. -/
def Attempt.Precedes (x y : Attempt) : Prop :=
  x.action < y.action ∨ x.action = y.action ∧ x.round < y.round ∧ x.fault = none

instance (x y : Attempt) : Decidable (x.Precedes y) := inferInstanceAs (Decidable (_ ∨ _))

/-- The attempts at one action. -/
def tries (attempts : List Attempt) (i : Nat) : List Attempt :=
  attempts.filter (·.action = i)

theorem mem_tries {attempts : List Attempt} {i : Nat} {x : Attempt} :
    x ∈ tries attempts i ↔ x ∈ attempts ∧ x.action = i := by
  simp [tries]

theorem tries_concat_self (attempts : List Attempt) (x : Attempt) :
    tries (attempts ++ [x]) x.action = tries attempts x.action ++ [x] := by
  simp [tries]

theorem tries_concat_of_ne (attempts : List Attempt) {x : Attempt} {i : Nat} (h : x.action ≠ i) :
    tries (attempts ++ [x]) i = tries attempts i := by
  simp [tries, h]

/-- A sequence that is driven by turns, and what they have attempted. -/
structure Log where
  sequence : Sequence
  attempts : List Attempt := []

namespace Log

/-- The attempt at the round that the sequence stands before. -/
def attempt (l : Log) (fault : Option Fault) : Attempt where
  action := l.sequence.behind
  round := l.sequence.round
  fault := fault

def next (l : Log) (t : Turn) : Log :=
  match t.step l.sequence with
  | ⟨.finished, rest, _⟩ => { l with sequence := rest }
  | ⟨.failed fault, rest, _⟩ =>
    { sequence := rest, attempts := l.attempts ++ [l.attempt (some fault)] }
  | ⟨.committed _, rest, _⟩ => { sequence := rest, attempts := l.attempts ++ [l.attempt none] }

/-- A turn finds no action, or passes on to the next one, or stays for another round. -/
theorem cases_next (l : Log) (t : Turn) :
    (l.sequence.pending = [] ∧ l.next t = l) ∨
      ∃ a rest, l.sequence.pending = a :: rest ∧
        ((∃ fault, (fault = none → a.steps ≤ l.sequence.round + 1) ∧
            l.next t =
              { sequence := l.sequence.nextAction, attempts := l.attempts ++ [l.attempt fault] }) ∨
          l.sequence.round + 1 < a.steps ∧
            l.next t = { sequence := l.sequence.nextRound
                         attempts := l.attempts ++ [l.attempt none] }) := by
  unfold next Turn.step
  rcases l.sequence.cases_step t.target t.pacing t.combat with
    ⟨hp, h⟩ | ⟨a, rest, hp, ⟨fault, -, h⟩ | ⟨places, source, -, h⟩⟩
  · rw [h]
    exact .inl ⟨hp, rfl⟩
  · rw [h]
    exact .inr ⟨a, rest, hp, .inl ⟨some fault, nofun, rfl⟩⟩
  · rw [h]
    unfold Sequence.advance
    by_cases hround : l.sequence.round + 1 < a.times.toNat
    · rw [if_pos hround]
      exact .inr ⟨a, rest, hp, .inr ⟨by unfold Action.steps; omega, rfl⟩⟩
    · rw [if_neg hround]
      exact .inr ⟨a, rest, hp, .inl ⟨none, fun _ => by unfold Action.steps; omega, rfl⟩⟩

/-- How a sequence of some actions may have been driven. -/
structure Orderly (actions : List Action) (l : Log) : Prop where
  /-- The action under way is the one whose place the sequence tells. -/
  pending : l.sequence.pending = actions.drop l.sequence.behind
  /-- It has a round left. -/
  left : ∀ a ∈ l.sequence.pending.head?, l.sequence.round < a.steps
  /-- Behind the last action no round is under way. -/
  idle : l.sequence.pending = [] → l.sequence.round = 0
  /-- Attempts follow the order of actions and rounds, and no fault is tried again. -/
  ordered : l.attempts.Pairwise Attempt.Precedes
  /-- No round of an action is left out. -/
  rounds : ∀ i, (tries l.attempts i).map Attempt.round = List.range (tries l.attempts i).length
  /-- Nothing ahead was attempted. -/
  reached : ∀ x ∈ l.attempts, x.action ≤ l.sequence.behind
  /-- Of the action under way, all rounds so far were made. -/
  underway : ∀ x ∈ tries l.attempts l.sequence.behind, x.fault = none
  length_underway : (tries l.attempts l.sequence.behind).length = l.sequence.round
  /-- Every action behind was attempted, and made in all its rounds unless one of them failed. -/
  settled : ∀ i < l.sequence.behind, ∃ a, actions[i]? = some a ∧ tries l.attempts i ≠ [] ∧
    ((∀ x ∈ tries l.attempts i, x.fault = none) → (tries l.attempts i).length = a.steps)

namespace Orderly

variable {actions : List Action} {l : Log}

theorem start (origin : Origin) (actions : List Action) :
    Orderly actions { sequence := { origin, pending := actions } } where
  pending := rfl
  left a _ := a.steps_pos
  idle _ := rfl
  ordered := .nil
  rounds _ := rfl
  reached := List.forall_mem_nil _
  underway := List.forall_mem_nil _
  length_underway := rfl
  settled i h := absurd h (Nat.not_lt_zero i)

/-- The round under way is later than all attempts before. -/
theorem ordered_attempt (h : Orderly actions l) (fault : Option Fault) :
    (l.attempts ++ [l.attempt fault]).Pairwise Attempt.Precedes := by
  refine List.pairwise_append.2 ⟨h.ordered, List.pairwise_singleton _ _, fun x hx y hy => ?_⟩
  obtain rfl := List.mem_singleton.1 hy
  rcases Nat.lt_or_eq_of_le (h.reached x hx) with hlt | heq
  · exact .inl hlt
  · have hmem : x ∈ tries l.attempts l.sequence.behind := mem_tries.2 ⟨hx, heq⟩
    have hround := List.mem_map_of_mem (f := Attempt.round) hmem
    rw [h.rounds, List.mem_range, h.length_underway] at hround
    exact .inr ⟨heq, hround, h.underway x hmem⟩

theorem tries_behind (l : Log) (fault : Option Fault) :
    tries (l.attempts ++ [l.attempt fault]) l.sequence.behind =
      tries l.attempts l.sequence.behind ++ [l.attempt fault] :=
  tries_concat_self l.attempts (l.attempt fault)

theorem rounds_attempt (h : Orderly actions l) (fault : Option Fault) (i : Nat) :
    (tries (l.attempts ++ [l.attempt fault]) i).map Attempt.round =
      List.range (tries (l.attempts ++ [l.attempt fault]) i).length := by
  by_cases hi : l.sequence.behind = i
  · subst hi
    rw [tries_behind, List.map_append, h.rounds, List.length_append, h.length_underway]
    exact List.range_succ.symm
  · rw [tries_concat_of_ne _ hi]
    exact h.rounds i

theorem reached_attempt (h : Orderly actions l) (fault : Option Fault) :
    ∀ x ∈ l.attempts ++ [l.attempt fault], x.action ≤ l.sequence.behind := by
  intro x hx
  rcases List.mem_append.1 hx with hx | hx
  · exact h.reached x hx
  · rw [List.mem_singleton.1 hx]
    exact Nat.le_refl _

theorem tries_ahead (h : Orderly actions l) (fault : Option Fault) :
    tries (l.attempts ++ [l.attempt fault]) (l.sequence.behind + 1) = [] := by
  refine List.eq_nil_iff_forall_not_mem.2 fun x hx => ?_
  obtain ⟨hx, haction⟩ := mem_tries.1 hx
  have hle := h.reached_attempt fault x hx
  omega

/-- What is behind stays as it is when the action under way is attempted. -/
theorem settled_attempt (h : Orderly actions l) (fault : Option Fault) {i : Nat}
    (hi : i < l.sequence.behind) :
    ∃ a, actions[i]? = some a ∧ tries (l.attempts ++ [l.attempt fault]) i ≠ [] ∧
      ((∀ x ∈ tries (l.attempts ++ [l.attempt fault]) i, x.fault = none) →
        (tries (l.attempts ++ [l.attempt fault]) i).length = a.steps) := by
  rw [tries_concat_of_ne l.attempts (x := l.attempt fault) (Nat.ne_of_gt hi)]
  exact h.settled i hi

/-- The action under way is given up, or its last round was made. -/
theorem nextAction (h : Orderly actions l) {a : Action} {rest : List Action}
    (hp : l.sequence.pending = a :: rest) {fault : Option Fault}
    (hlast : fault = none → a.steps ≤ l.sequence.round + 1) :
    Orderly actions
      { sequence := l.sequence.nextAction, attempts := l.attempts ++ [l.attempt fault] } where
  pending := Sequence.pending_nextAction h.pending
  left b _ := b.steps_pos
  idle _ := rfl
  ordered := h.ordered_attempt fault
  rounds := h.rounds_attempt fault
  reached x hx := Nat.le_succ_of_le (h.reached_attempt fault x hx)
  underway x hx := by
    have hmem : x ∈ ([] : List Attempt) := h.tries_ahead fault ▸ hx
    cases hmem
  length_underway := congrArg List.length (h.tries_ahead fault)
  settled i hi := by
    rcases Nat.lt_or_eq_of_le (Nat.le_of_lt_succ hi) with hlt | rfl
    · exact h.settled_attempt fault hlt
    · refine ⟨a, Sequence.getElem?_behind h.pending hp, ?_, fun hmade => ?_⟩
      · rw [tries_behind]
        exact List.concat_ne_nil _ _
      · rw [tries_behind] at hmade ⊢
        have hfault : fault = none := hmade (l.attempt fault) (by simp)
        have hleft := h.left a (by rw [hp]; rfl)
        rw [List.length_append, List.length_singleton, h.length_underway]
        have := hlast hfault
        omega

/-- A round was made, and there is another one. -/
theorem nextRound (h : Orderly actions l) {a : Action} {rest : List Action}
    (hp : l.sequence.pending = a :: rest) (hmore : l.sequence.round + 1 < a.steps) :
    Orderly actions
      { sequence := l.sequence.nextRound, attempts := l.attempts ++ [l.attempt none] } where
  pending := h.pending
  left b hb := by
    change b ∈ l.sequence.pending.head? at hb
    rw [hp] at hb
    obtain rfl := Option.some.inj hb
    exact hmore
  idle hnil := by
    change l.sequence.pending = [] at hnil
    rw [hp] at hnil
    cases hnil
  ordered := h.ordered_attempt none
  rounds := h.rounds_attempt none
  reached := h.reached_attempt none
  underway x hx := by
    change x ∈ tries _ l.sequence.behind at hx
    rw [tries_behind] at hx
    rcases List.mem_append.1 hx with hx | hx
    · exact h.underway x hx
    · rw [List.mem_singleton.1 hx]
      rfl
  length_underway := by
    show (tries _ l.sequence.behind).length = l.sequence.round + 1
    rw [tries_behind, List.length_append, h.length_underway]
    rfl
  settled i hi := h.settled_attempt none hi

/-- Whatever world a turn meets, it keeps the order. -/
theorem next (h : Orderly actions l) (t : Turn) : Orderly actions (l.next t) := by
  rcases l.cases_next t with
    ⟨-, heq⟩ | ⟨a, rest, hp, ⟨fault, hlast, heq⟩ | ⟨hmore, heq⟩⟩
  · rw [heq]
    exact h
  · rw [heq]
    exact h.nextAction hp hlast
  · rw [heq]
    exact h.nextRound hp hmore

theorem turns (h : Orderly actions l) (turns : List Turn) :
    Orderly actions (turns.foldl Log.next l) := by
  induction turns generalizing l with
  | nil => exact h
  | cons t turns ih => exact ih (h.next t)

/-- A log begins at the first round of the first action. -/
theorem head (h : Orderly actions l) : ∀ x ∈ l.attempts.head?, x.action = 0 ∧ x.round = 0 := by
  intro x hx
  obtain ⟨later, hl⟩ : ∃ later, l.attempts = x :: later := List.head?_eq_some_iff.1 hx
  have hmem : x ∈ l.attempts := List.mem_of_mem_head? hx
  constructor
  · by_contra hne
    have hpos : 0 < l.sequence.behind :=
      Nat.lt_of_lt_of_le (Nat.pos_of_ne_zero hne) (h.reached x hmem)
    obtain ⟨a, -, htries, -⟩ := h.settled 0 hpos
    obtain ⟨y, hy⟩ := List.exists_mem_of_ne_nil _ htries
    obtain ⟨hy, haction⟩ := mem_tries.1 hy
    -- The attempt at the first action is no other than the first attempt, nor behind it.
    have hordered := h.ordered
    rw [hl] at hy hordered
    rcases List.mem_cons.1 hy with rfl | hy
    · exact hne haction
    · rcases List.rel_of_pairwise_cons hordered hy with hlt | ⟨heq, -⟩ <;> omega
  · have hrounds := h.rounds x.action
    have hcons : tries l.attempts x.action = x :: tries later x.action := by
      rw [hl]
      exact List.filter_cons_of_pos (by simp)
    rw [hcons, List.length_cons, List.range_succ_eq_map] at hrounds
    exact (List.cons.inj hrounds).1

/-- Rounds are counted without overflow. -/
theorem round_lt (h : Orderly actions l) : l.sequence.round + 1 < 2 ^ 32 := by
  cases hp : l.sequence.pending with
  | nil =>
    rw [h.idle hp]
    decide
  | cons a rest =>
    have hleft := h.left a (by rw [hp]; rfl)
    have htimes := a.times.toNat_lt
    unfold Action.steps at hleft
    omega

theorem length_le_behind (h : Orderly actions l) (hdone : l.sequence.done) :
    actions.length ≤ l.sequence.behind := by
  have hpending := h.pending
  rw [List.isEmpty_iff.1 hdone] at hpending
  exact List.drop_eq_nil_iff.1 hpending.symm

end Orderly

/-! ## Counting turns -/

theorem behind_next_le (l : Log) (t : Turn) :
    (l.next t).sequence.behind ≤ l.sequence.behind + 1 := by
  rcases l.cases_next t with ⟨-, heq⟩ | ⟨a, rest, -, ⟨fault, -, heq⟩ | ⟨-, heq⟩⟩
  · rw [heq]
    exact Nat.le_succ _
  · rw [heq]
    exact Nat.le_refl _
  · rw [heq]
    exact Nat.le_succ _

theorem behind_turns_le (l : Log) (turns : List Turn) :
    (turns.foldl next l).sequence.behind ≤ l.sequence.behind + turns.length := by
  induction turns generalizing l with
  | nil => exact Nat.le_refl _
  | cons t turns ih =>
    have hstep := l.behind_next_le t
    have hturns := ih (l.next t)
    rw [List.foldl_cons, List.length_cons]
    omega

theorem remaining_next_le (l : Log) (t : Turn) :
    (l.next t).sequence.remaining ≤ l.sequence.remaining - 1 := by
  rcases l.cases_next t with ⟨hp, heq⟩ | ⟨a, rest, hp, ⟨fault, -, heq⟩ | ⟨hmore, heq⟩⟩
  · rw [heq, Sequence.remaining, hp]
    exact Nat.zero_le _
  · rw [heq]
    exact Nat.le_sub_one_of_lt (Sequence.remaining_nextAction_lt hp)
  · have htimes : l.sequence.round + 1 < a.times.toNat := by
      unfold Action.steps at hmore
      omega
    have hadvance : l.sequence.advance a = l.sequence.nextRound := if_pos htimes
    rw [heq, ← hadvance]
    exact Nat.le_sub_one_of_lt (Sequence.remaining_advance_lt hp)

/-- Every turn uses up a step, whether or not it makes it. -/
theorem remaining_turns_le (l : Log) (turns : List Turn) :
    (turns.foldl next l).sequence.remaining ≤ l.sequence.remaining - turns.length := by
  induction turns generalizing l with
  | nil => exact Nat.le_refl _
  | cons t turns ih =>
    have hstep := l.remaining_next_le t
    have hturns := ih (l.next t)
    rw [List.foldl_cons, List.length_cons]
    omega

end Log

namespace Sequence

theorem remaining_eq_zero_iff (s : Sequence) : s.remaining = 0 ↔ s.done := by
  unfold remaining done
  cases s.pending with
  | nil => exact iff_of_true rfl rfl
  | cons a rest => exact iff_of_false (by dsimp only; omega) nofun

theorem remaining_start (origin : Origin) (actions : List Action) :
    remaining { origin, pending := actions } = (actions.map Action.steps).sum := by
  cases actions with
  | nil => rfl
  | cons a rest =>
    rw [List.map_cons, List.sum_cons, List.sum_eq_foldr, List.foldr_map]
    rfl

end Sequence

/-! ## All logs -/

/-- A sequence that is driven by any turns, each in a world of its own, attempts rounds in order
from the first round of the first action: it leaves none out, tries no fault again, and passes an
action without a fault only when all its rounds are made. It is done after no fewer turns than there
are actions and no more than they have steps, counts rounds in 32 bits throughout, and changes
nothing when a step fails or none is left. -/
theorem orderly_attempts (origin : Origin) (actions : List Action) (turns : List Turn) :
    let log := turns.foldl Log.next { sequence := { origin, pending := actions } }
    log.Orderly actions ∧
      (∀ x ∈ log.attempts.head?, x.action = 0 ∧ x.round = 0) ∧
      log.sequence.round + 1 < 2 ^ 32 ∧
      (log.sequence.done → actions.length ≤ turns.length) ∧
      ((actions.map Action.steps).sum ≤ turns.length → log.sequence.done) ∧
      ∀ t : Turn,
        (∀ fault, (t.step log.sequence).report = .failed fault →
          (t.step log.sequence).combat = t.combat) ∧
        ((t.step log.sequence).report = .finished ↔ log.sequence.done) ∧
        (log.sequence.done → t.step log.sequence = ⟨.finished, log.sequence, t.combat⟩) := by
  intro log
  have horderly : log.Orderly actions := (Log.Orderly.start origin actions).turns turns
  refine ⟨horderly, horderly.head, horderly.round_lt, fun hdone => ?_, fun hsteps => ?_,
    fun t => ?_⟩
  · have hbehind := Log.behind_turns_le { sequence := { origin, pending := actions } } turns
    rw [Nat.zero_add] at hbehind
    exact Nat.le_trans (horderly.length_le_behind hdone) hbehind
  · have hremaining := Log.remaining_turns_le { sequence := { origin, pending := actions } } turns
    rw [Sequence.remaining_start, Nat.sub_eq_zero_of_le hsteps] at hremaining
    exact log.sequence.remaining_eq_zero_iff.1 (Nat.le_zero.1 hremaining)
  · exact ⟨fun _ => t.combat_of_failed, t.finished_iff_done, t.step_of_done⟩

/-- The second strike finds its target gone, so the third is never tried. -/
example :
    let crowd : Combat Script := { actor := .fresh 9, pool := [.fresh 5], source := {} }
    let turns : List Turn :=
      [{ combat := crowd, target := some 0, pacing := {} },
        { combat := { crowd with pool := [] }, target := some 0, pacing := {} },
        { combat := crowd, target := none, pacing := {} }]
    (turns.foldl Log.next
        { sequence := { pending := [.attack { amount := 1, times := 3 }, .heal 2] } }).attempts =
      [⟨0, 0, none⟩, ⟨0, 1, some .noTarget⟩, ⟨1, 0, none⟩] := by
  decide +kernel

end Skirmish
