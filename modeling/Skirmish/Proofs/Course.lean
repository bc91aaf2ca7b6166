import Skirmish.Play
import Mathlib

/-!
# The course of a run

`Sequence.schedule s` lists the rounds that a sequence has before it, each with the actions behind
its own. `course round` makes rounds in order until one fails, over any kind of state, and
`run_eq_course` says that a run is the course of its schedule under `Combat.round`. So a run
depends neither on its pacing nor on what lies behind the sequence.

`course_agree` relates the courses of two kinds of state: where one round keeps a relation that may
loosen with every step, so does the whole course.
-/

namespace Skirmish

variable {σ : Type} [Chance σ]

/-- One round of an action: it reaches its places, or fails, and is carried out on them. -/
def Combat.round (origin : Origin) (target : Option Nat) (a : Action) (c : Combat σ) :
    Except Fault (Combat σ) :=
  (a.reach origin target c.pool.length c.source).map fun (places, source) =>
    { c with source }.carryOut a origin places

theorem Combat.round_eq_error_iff {c : Combat σ} {origin : Origin} {target : Option Nat}
    {a : Action} {fault : Fault} : c.round origin target a = .error fault ↔
      a.reach origin target c.pool.length c.source = .error fault := by
  unfold Combat.round
  cases a.reach origin target c.pool.length c.source <;> simp [Except.map]

/-- What a round that was made did. -/
theorem Combat.round_eq_ok_iff {c c' : Combat σ} {origin : Origin} {target : Option Nat}
    {a : Action} : c.round origin target a = .ok c' ↔
      ∃ places source, a.reach origin target c.pool.length c.source = .ok (places, source) ∧
        { c with source }.carryOut a origin places = c' := by
  unfold Combat.round
  cases a.reach origin target c.pool.length c.source with
  | error fault => simp [Except.map]
  | ok r =>
    obtain ⟨places, source⟩ := r
    constructor
    · exact fun h => ⟨places, source, rfl, Except.ok.inj h⟩
    · rintro ⟨places', source', h, rfl⟩
      cases h
      rfl

/-- A round to make: its action, and the actions behind it. -/
abbrev Due := Action × List Action

namespace Sequence

/-- The rounds of some actions, in order. -/
def dues : List Action → List Due
  | [] => []
  | a :: rest => List.replicate a.steps (a, rest) ++ dues rest

/-- The rounds that are left when none fails. -/
def schedule (s : Sequence) : List Due :=
  match s.pending with
  | [] => []
  | a :: rest => List.replicate (max 1 (a.times.toNat - s.round)) (a, rest) ++ dues rest

theorem schedule_of_round_zero {s : Sequence} (h : s.round = 0) : s.schedule = dues s.pending := by
  unfold schedule
  rw [h]
  cases s.pending <;> rfl

theorem schedule_of_pending_nil {s : Sequence} (h : s.pending = []) : s.schedule = [] := by
  unfold schedule
  rw [h]

/-- The first round is one of the action under way, and a step that makes it leaves the others. -/
theorem schedule_of_pending_cons {s : Sequence} {a : Action} {rest : List Action}
    (h : s.pending = a :: rest) : s.schedule = (a, rest) :: (s.advance a).schedule := by
  unfold advance
  split
  · rename_i hr
    simp only [schedule, nextRound, h]
    obtain ⟨k, hk⟩ : ∃ k, a.times.toNat - s.round = k + 2 := ⟨a.times.toNat - s.round - 2, by omega⟩
    rw [hk, show a.times.toNat - (s.round + 1) = k + 1 by omega,
      show max 1 (k + 2) = max 1 (k + 1) + 1 by omega]
    rfl
  · rename_i hr
    rw [schedule_of_round_zero (s := s.nextAction) rfl]
    simp only [schedule, nextAction, h, List.tail_cons]
    rw [show max 1 (a.times.toNat - s.round) = 1 by omega]
    rfl

theorem length_dues (actions : List Action) :
    (dues actions).length = (actions.map Action.steps).sum := by
  induction actions with
  | nil => rfl
  | cons a rest ih => simp [dues, ih]

theorem mem_dues {actions : List Action} {d : Due} (h : d ∈ dues actions) : d.1 ∈ actions := by
  induction actions with
  | nil => cases h
  | cons a rest ih =>
    rcases List.mem_append.1 h with h | h
    · rw [(List.mem_replicate.1 h).2]
      exact List.mem_cons_self
    · exact List.mem_cons_of_mem _ (ih h)

end Sequence

/-- How the rounds of a schedule went: how many were made or what failed, the actions not begun,
and the state at the end. -/
structure Course (κ : Type) where
  report : Except Fault Nat
  left : List Action
  state : κ

section Course

variable {κ κ' : Type} {round : Action → κ → Except Fault κ}

/-- The course with steps made before it. -/
def Course.after (count : Nat) (k : Course κ) : Course κ :=
  { k with report := k.report.map (count + ·) }

theorem Course.after_zero (k : Course κ) : k.after 0 = k := by
  obtain ⟨report, left, state⟩ := k
  cases report <;> simp [after, Except.map]

theorem Course.after_after (k : Course κ) (m n : Nat) : (k.after m).after n = k.after (n + m) := by
  obtain ⟨report, left, state⟩ := k
  cases report <;> simp [after, Except.map, Nat.add_assoc]

theorem Course.exists_of_report_after {k : Course κ} {count n : Nat}
    (h : (k.after count).report = .ok n) : ∃ m, k.report = .ok m ∧ count + m = n := by
  obtain ⟨report, left, state⟩ := k
  cases report with
  | error fault => cases h
  | ok m => exact ⟨m, rfl, Except.ok.inj h⟩

/-- Makes rounds in order, up to the first that fails. -/
def course (round : Action → κ → Except Fault κ) : List Due → κ → Course κ
  | [], c => ⟨.ok 0, [], c⟩
  | (a, left) :: dues, c =>
    match round a c with
    | .error fault => ⟨.error fault, left, c⟩
    | .ok c => (course round dues c).after 1

theorem course_cons_of_error {a : Action} {c : κ} {fault : Fault} (h : round a c = .error fault)
    (left : List Action) (dues : List Due) :
    course round ((a, left) :: dues) c = ⟨.error fault, left, c⟩ := by
  rw [course, h]

theorem course_cons_of_ok {a : Action} {c c' : κ} (h : round a c = .ok c') (left : List Action)
    (dues : List Due) : course round ((a, left) :: dues) c = (course round dues c').after 1 := by
  rw [course, h]

theorem course_append_of_ok (tail : List Due) :
    ∀ {dues : List Due} {n : Nat} {c : κ}, (course round dues c).report = .ok n →
      course round (dues ++ tail) c = (course round tail (course round dues c).state).after n
  | [], n, c, h => by
    cases h
    exact (Course.after_zero _).symm
  | (a, left) :: dues, n, c, h => by
    cases hr : round a c with
    | error e => rw [course_cons_of_error hr] at h; cases h
    | ok c' =>
      rw [course_cons_of_ok hr] at h
      obtain ⟨m, hk, rfl⟩ := Course.exists_of_report_after h
      rw [List.cons_append, course_cons_of_ok hr, course_cons_of_ok hr,
        course_append_of_ok tail hk, Course.after_after]
      rfl

/-- Behind a fault nothing is made. -/
theorem course_append_of_error (tail : List Due) :
    ∀ {dues : List Due} {fault : Fault} {c : κ}, (course round dues c).report = .error fault →
      course round (dues ++ tail) c = course round dues c
  | [], _, _, h => by cases h
  | (a, left) :: dues, fault, c, h => by
    rw [List.cons_append]
    cases hr : round a c with
    | error e => rw [course_cons_of_error hr, course_cons_of_error hr]
    | ok c' =>
      rw [course_cons_of_ok hr] at h
      rw [course_cons_of_ok hr, course_cons_of_ok hr]
      cases hk : (course round dues c').report with
      | error e => rw [course_append_of_error tail hk]
      | ok m =>
        rw [Course.after, hk] at h
        cases h

/-- What is reported and left behind depends on what the rounds do, not on the actions that they
belong to or on those behind them. -/
theorem course_congr {dues dues' : List Due}
    (h : dues.map (fun due => round due.1) = dues'.map fun due => round due.1) (c : κ) :
    (course round dues c).report = (course round dues' c).report ∧
      (course round dues c).state = (course round dues' c).state := by
  induction dues generalizing dues' c with
  | nil =>
    obtain rfl := List.map_eq_nil_iff.1 h.symm
    exact ⟨rfl, rfl⟩
  | cons due dues ih =>
    obtain ⟨due', dues', rfl, hround, hrest⟩ := List.map_eq_cons_iff.1 h.symm
    obtain ⟨a, left⟩ := due
    obtain ⟨a', left'⟩ := due'
    have hround : round a' = round a := hround
    cases hr : round a c with
    | error fault =>
      rw [course_cons_of_error hr, course_cons_of_error ((congrFun hround c).trans hr)]
      exact ⟨rfl, rfl⟩
    | ok c' =>
      rw [course_cons_of_ok hr, course_cons_of_ok ((congrFun hround c).trans hr)]
      obtain ⟨hreport, hstate⟩ := ih hrest.symm c'
      exact ⟨congrArg (Except.map (1 + ·)) hreport, hstate⟩

/-- Nothing is left that was not left behind some round. -/
theorem length_left_course {n : Nat} :
    ∀ {dues : List Due} {c : κ}, (∀ due ∈ dues, due.2.length ≤ n) →
      (course round dues c).left.length ≤ n
  | [], _, _ => Nat.zero_le n
  | (a, left) :: dues, c, h => by
    unfold course
    split
    · exact h (a, left) List.mem_cons_self
    · exact length_left_course fun due hd => h due (List.mem_cons_of_mem _ hd)

/-- Two rounds went alike: both failed for one reason, or both ended in related states. -/
inductive Agree (R : κ → κ' → Prop) : Except Fault κ → Except Fault κ' → Prop
  | error (fault : Fault) : Agree R (.error fault) (.error fault)
  | ok {c : κ} {d : κ'} : R c d → Agree R (.ok c) (.ok d)

/-- If each of `N` rounds keeps a relation, which may loosen from round to round, then so does the
course of them. -/
theorem course_agree (round : Action → κ → Except Fault κ) (round' : Action → κ' → Except Fault κ')
    (R : Nat → κ → κ' → Prop) {N : Nat} {P : Action → Prop}
    (hround : ∀ n a c d, n < N → P a → R n c d → Agree (R (n + 1)) (round a c) (round' a d)) :
    ∀ {dues : List Due} {n : Nat} {c : κ} {d : κ'}, (∀ due ∈ dues, P due.1) →
      n + dues.length ≤ N → R n c d →
      (course round dues c).report = (course round' dues d).report ∧
        ∃ m, m ≤ N ∧ R m (course round dues c).state (course round' dues d).state := by
  intro dues
  induction dues with
  | nil => exact fun {n c d} _ hn h => ⟨rfl, n, by simpa using hn, h⟩
  | cons due dues ih =>
    intro n c d hP hn h
    obtain ⟨a, left⟩ := due
    have hP' := fun due hd => hP due (List.mem_cons_of_mem _ hd)
    rw [List.length_cons] at hn
    have ha := hround n a c d (by omega) (hP _ List.mem_cons_self) h
    unfold course
    generalize round a c = x at ha
    generalize round' a d = y at ha
    cases ha with
    | error fault => exact ⟨rfl, n, by omega, h⟩
    | ok h' =>
      obtain ⟨hr, hs⟩ := ih hP' (by omega) h'
      exact ⟨congrArg (Except.map (1 + ·)) hr, hs⟩

/-- What every round keeps, the whole course keeps. -/
theorem course_keeps {I : κ → Prop} :
    ∀ (dues : List Due), (∀ due ∈ dues, ∀ c c', I c → round due.1 c = .ok c' → I c') → ∀ {c : κ},
      I c → I (course round dues c).state
  | [], _, _, h => h
  | (a, left) :: dues, hround, c, h => by
    cases hr : round a c with
    | error fault => rw [course_cons_of_error hr]; exact h
    | ok c' =>
      rw [course_cons_of_ok hr]
      exact course_keeps dues (fun due hd => hround due (List.mem_cons_of_mem _ hd))
        (hround (a, left) List.mem_cons_self c c' h hr)

end Course

namespace Sequence

theorem step_of_round_error {s : Sequence} {a : Action} {rest : List Action}
    (h : s.pending = a :: rest) {target : Option Nat} {c : Combat σ} {fault : Fault}
    (hr : c.round s.origin target a = .error fault) (pacing : Pacing) :
    s.step target pacing c = ⟨.failed fault, s.nextAction, c⟩ :=
  step_of_reach_error h (Combat.round_eq_error_iff.1 hr) pacing

theorem step_of_round_ok {s : Sequence} {a : Action} {rest : List Action}
    (h : s.pending = a :: rest) {target : Option Nat} {c c' : Combat σ}
    (hr : c.round s.origin target a = .ok c') (pacing : Pacing) :
    ∃ b, s.step target pacing c = ⟨.committed b, s.advance a, c'⟩ := by
  obtain ⟨places, source, hre, rfl⟩ := Combat.round_eq_ok_iff.1 hr
  exact ⟨_, step_of_reach_ok h hre pacing⟩

theorem length_left_dues {actions : List Action} :
    ∀ due ∈ dues actions, due.2.length < actions.length := by
  induction actions with
  | nil => intro due hd; cases hd
  | cons a rest ih =>
    intro due hd
    rw [List.length_cons]
    rcases List.mem_append.1 hd with hd | hd
    · rw [(List.mem_replicate.1 hd).2]
      exact Nat.lt_succ_self _
    · exact Nat.lt_succ_of_lt (ih due hd)

theorem length_left_schedule {s : Sequence} {a : Action} {rest : List Action}
    (h : s.pending = a :: rest) : ∀ due ∈ s.schedule, due.2.length ≤ rest.length := by
  intro due hd
  unfold schedule at hd
  rw [h] at hd
  rcases List.mem_append.1 hd with hd | hd
  · exact Nat.le_of_eq (by rw [(List.mem_replicate.1 hd).2])
  · exact Nat.le_of_lt (length_left_dues due hd)

@[simp] theorem origin_advance (s : Sequence) (a : Action) : (s.advance a).origin = s.origin := by
  unfold advance
  split <;> rfl

/-- What lies behind a sequence and before it stays the same in all. -/
theorem behind_advance {s : Sequence} {a : Action} {rest : List Action}
    (h : s.pending = a :: rest) :
    (s.advance a).behind + (s.advance a).pending.length = s.behind + s.pending.length := by
  unfold advance
  split
  · rfl
  · simp only [nextAction, h, List.tail_cons, List.length_cons]
    omega

theorem length_pending_advance {s : Sequence} {a : Action} {rest : List Action}
    (h : s.pending = a :: rest) : rest.length ≤ (s.advance a).pending.length := by
  unfold advance
  split
  · simp [nextRound, h]
  · simp [nextAction, h]

/-- A sequence with nothing left stands behind its last action. -/
theorem round_advance (s : Sequence) {a : Action} {rest : List Action} (hs : s.pending = a :: rest)
    (h : (s.advance a).pending = []) : (s.advance a).round = 0 := by
  unfold advance at h ⊢
  split
  · rename_i hr
    rw [if_pos hr] at h
    rw [show s.nextRound.pending = s.pending from rfl, hs] at h
    cases h
  · rfl

theorem run_eq_course (s : Sequence) (target : Option Nat) (pacing : Pacing) (c : Combat σ)
    (h : s.pending = [] → s.round = 0) :
    s.run target pacing c =
      ⟨(course (Combat.round s.origin target) s.schedule c).report,
        { origin := s.origin
          pending := (course (Combat.round s.origin target) s.schedule c).left
          behind := s.behind + (s.pending.length -
            (course (Combat.round s.origin target) s.schedule c).left.length) },
        (course (Combat.round s.origin target) s.schedule c).state⟩ := by
  generalize hl : s.schedule = l
  induction l generalizing s c with
  | nil =>
    cases hp : s.pending with
    | nil =>
      rw [run_of_finished (step_of_pending_nil hp target pacing c)]
      obtain ⟨origin, pending, behind, round⟩ := s
      obtain rfl : round = 0 := h hp
      obtain rfl : pending = [] := hp
      rfl
    | cons a rest => rw [schedule_of_pending_cons hp] at hl; cases hl
  | cons due l ih =>
    cases hp : s.pending with
    | nil => rw [schedule_of_pending_nil hp] at hl; cases hl
    | cons a rest =>
      have hleft := length_left_schedule hp
      rw [schedule_of_pending_cons hp] at hl hleft
      obtain ⟨rfl, rfl⟩ := List.cons.inj hl
      cases hr : c.round s.origin target a with
      | error fault =>
        rw [run_of_failed (step_of_round_error hp hr pacing), course_cons_of_error hr]
        simp [nextAction, hp]
      | ok c' =>
        obtain ⟨b, hb⟩ := step_of_round_ok hp hr pacing
        rw [run_of_committed hb, ih (s.advance a) c' (round_advance s hp) rfl,
          course_cons_of_ok hr, origin_advance]
        have hle : (course (Combat.round s.origin target) (s.advance a).schedule c').left.length ≤
            rest.length :=
          length_left_course fun due hd => hleft due (List.mem_cons_of_mem _ hd)
        generalize course (Combat.round s.origin target) (s.advance a).schedule c' = k at hle
        have hadd := behind_advance hp
        have hlen : rest.length ≤ (s.advance a).pending.length := length_pending_advance hp
        rw [hp, List.length_cons] at hadd
        simp only [After.behind, Course.after, List.length_cons]
        congr 2
        omega

end Sequence

end Skirmish
