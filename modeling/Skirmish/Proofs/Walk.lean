import Skirmish.Proofs.Combat.Sound
import Skirmish.Proofs.Plan

/-!
# Walks

`Sequence.walk` is what a run looks like from outside: the actions of its committed steps and the
boundaries that these report, in order. A run that succeeds counts them (`length_walk`).

Whom a step strikes depends on chance only for a random attack, which strikes the place that it
draws (`Action.reach_any`).
-/

namespace Skirmish

variable {σ : Type}

/-- A run that succeeds has succeeded behind the steps before it. -/
theorem After.exists_of_report_behind {a : After (Except Fault Nat) σ} {count n : Nat}
    (h : (a.behind count).report = .ok n) : ∃ k, a.report = .ok k ∧ count + k = n := by
  obtain ⟨report, rest, combat⟩ := a
  cases report with
  | error fault => cases h
  | ok k => exact ⟨k, rfl, Except.ok.inj h⟩

variable [Chance σ]

namespace Sequence

variable {s rest : Sequence} {target : Option Nat} {pacing : Pacing} {c c' : Combat σ} {a : Action}

/-- The committed steps of a run, each with the action that it was made for. -/
def walk (s : Sequence) (target : Option Nat) (pacing : Pacing) (c : Combat σ) :
    List (Action × Boundary) :=
  match s.pending with
  | [] => []
  | a :: _ =>
    match _ : s.step target pacing c with
    | ⟨.committed b, rest, c⟩ => (a, b) :: rest.walk target pacing c
    | _ => []
termination_by s.remaining
decreasing_by
  rename_i hstep
  simpa [hstep] using remaining_step_lt (congrArg After.report hstep)

theorem walk_of_finished (h : s.step target pacing c = ⟨.finished, rest, c'⟩) :
    s.walk target pacing c = [] := by
  unfold walk
  split
  · rfl
  · split <;> simp_all

theorem walk_of_failed {fault : Fault}
    (h : s.step target pacing c = ⟨.failed fault, rest, c'⟩) : s.walk target pacing c = [] := by
  unfold walk
  split
  · rfl
  · split <;> simp_all

theorem walk_of_committed {b : Boundary} {tail : List Action} (hp : s.pending = a :: tail)
    (h : s.step target pacing c = ⟨.committed b, rest, c'⟩) :
    s.walk target pacing c = (a, b) :: rest.walk target pacing c' := by
  rw [walk, hp]
  dsimp only
  split <;> simp_all

/-- A step finds the end, or fails and changes nothing, or is made for the action under way. -/
theorem cases_step (s : Sequence) (target : Option Nat) (pacing : Pacing) (c : Combat σ) :
    (s.pending = [] ∧ s.step target pacing c = ⟨.finished, s, c⟩) ∨
      (∃ a tail, s.pending = a :: tail ∧
        ((∃ fault, a.reach s.origin target c.pool.length c.source = .error fault ∧
            s.step target pacing c = ⟨.failed fault, s.nextAction, c⟩) ∨
          ∃ places source,
            a.reach s.origin target c.pool.length c.source = .ok (places, source) ∧
            s.step target pacing c = ⟨.committed (s.boundary a places pacing), s.advance a,
              { c with source }.carryOut a s.origin places⟩)) := by
  cases hp : s.pending with
  | nil => exact .inl ⟨rfl, step_of_pending_nil hp target pacing c⟩
  | cons a tail =>
    refine .inr ⟨a, tail, rfl, ?_⟩
    cases hr : a.reach s.origin target c.pool.length c.source with
    | error fault => exact .inl ⟨fault, rfl, step_of_reach_error hp hr pacing⟩
    | ok reached =>
      obtain ⟨places, source⟩ := reached
      exact .inr ⟨places, source, rfl, step_of_reach_ok hp hr pacing⟩

/-- Induction along a run: a sequence that is done, or fails, makes no step, and what holds behind a
step that is made carries over to before it. -/
@[elab_as_elim]
theorem run_induction (target : Option Nat) (pacing : Pacing)
    {P : Sequence → Combat σ → Prop}
    (finished : ∀ (s : Sequence) (c : Combat σ), s.pending = [] →
      s.step target pacing c = ⟨.finished, s, c⟩ → P s c)
    (failed : ∀ (s : Sequence) (c : Combat σ) (a : Action) (tail : List Action) (fault : Fault),
      s.pending = a :: tail →
      a.reach s.origin target c.pool.length c.source = .error fault →
      s.step target pacing c = ⟨.failed fault, s.nextAction, c⟩ → P s c)
    (committed : ∀ (s : Sequence) (c : Combat σ) (a : Action) (tail : List Action)
      (places : List Nat) (source : σ), s.pending = a :: tail →
      a.reach s.origin target c.pool.length c.source = .ok (places, source) →
      s.step target pacing c = ⟨.committed (s.boundary a places pacing), s.advance a,
        { c with source }.carryOut a s.origin places⟩ →
      P (s.advance a) ({ c with source }.carryOut a s.origin places) → P s c)
    (s : Sequence) (c : Combat σ) : P s c := by
  induction hs : s.remaining using Nat.strongRecOn generalizing s c with
  | _ n ih =>
    rcases s.cases_step target pacing c with
      ⟨hp, h⟩ | ⟨a, tail, hp, ⟨fault, hr, h⟩ | ⟨places, source, hr, h⟩⟩
    · exact finished s c hp h
    · exact failed s c a tail fault hp hr h
    · have hlt := remaining_advance_lt hp
      exact committed s c a tail places source hp hr h (ih _ (by omega) _ _ rfl)

/-- What holds of every committed step holds along a walk. -/
theorem forall_mem_walk {P : Action × Boundary → Prop}
    (hstep : ∀ (s : Sequence) (c : Combat σ) (a : Action) (places : List Nat) (source : σ),
      a.reach s.origin target c.pool.length c.source = .ok (places, source) →
      P (a, s.boundary a places pacing)) (s : Sequence) (c : Combat σ) :
    ∀ made ∈ s.walk target pacing c, P made := by
  induction s, c using @run_induction σ _ target pacing with
  | finished s c hp h =>
    rw [walk_of_finished h]
    exact List.forall_mem_nil _
  | failed s c a tail fault hp hr h =>
    rw [walk_of_failed h]
    exact List.forall_mem_nil _
  | committed s c a tail places source hp hr h ih =>
    rw [walk_of_committed hp h]
    exact List.forall_mem_cons.2 ⟨hstep s c a places source hr, ih⟩

theorem length_walk {n : Nat} (h : (s.run target pacing c).report = .ok n) :
    (s.walk target pacing c).length = n := by
  induction s, c using @run_induction σ _ target pacing generalizing n with
  | finished s c hp hstep =>
    rw [run_of_finished hstep] at h
    rw [walk_of_finished hstep]
    exact Except.ok.inj h
  | failed s c a tail fault hp hr hstep =>
    rw [run_of_failed hstep] at h
    cases h
  | committed s c a tail places source hp hr hstep ih =>
    rw [run_of_committed hstep] at h
    obtain ⟨k, hk, rfl⟩ := After.exists_of_report_behind h
    rw [walk_of_committed hp hstep, List.length_cons, ih hk, Nat.add_comm]

/-- Where the sequence stands within all its actions, the action under way is found. -/
theorem getElem?_behind {actions tail : List Action} (h : s.pending = actions.drop s.behind)
    (hp : s.pending = a :: tail) : actions[s.behind]? = some a := by
  rw [← List.head?_drop, ← h, hp]
  rfl

theorem pending_nextAction {actions : List Action} (h : s.pending = actions.drop s.behind) :
    s.nextAction.pending = actions.drop s.nextAction.behind := by
  show s.pending.tail = actions.drop (s.behind + 1)
  rw [h, List.tail_drop]

end Sequence

/-! ## Chance -/

/-- An attack strikes nobody, or the one place that it draws, or certain places without drawing: the
size of the pool and the target decide, not the source of chance. -/
theorem Targeting.recipients_any (t : Targeting) (size : Nat) (target : Option Nat) :
    (∃ fault, ∀ {τ : Type} [Chance τ] (source : τ),
        t.recipients size target source = .error fault) ∨
      (t = .random ∧ 0 < size ∧ ∀ {τ : Type} [Chance τ] (source : τ),
        t.recipients size target source =
          .ok ([(Chance.index size source).1], (Chance.index size source).2)) ∨
      (t ≠ .random ∧ ∃ places, ∀ {τ : Type} [Chance τ] (source : τ),
        t.recipients size target source = .ok (places, source)) := by
  cases t with
  | everyone =>
    by_cases hs : size = 0
    · exact .inl ⟨_, fun _ => if_pos hs⟩
    · exact .inr (.inr ⟨nofun, _, fun _ => if_neg hs⟩)
  | random =>
    by_cases hs : size = 0
    · exact .inl ⟨_, fun _ => if_pos hs⟩
    · exact .inr (.inl ⟨rfl, Nat.pos_of_ne_zero hs, fun _ => if_neg hs⟩)
  | declared =>
    cases target with
    | none => exact .inl ⟨_, fun _ => rfl⟩
    | some i =>
      by_cases hi : i < size
      · exact .inr (.inr ⟨nofun, [i], fun _ => if_pos hi⟩)
      · exact .inl ⟨_, fun _ => if_neg hi⟩

/-- Of all actions, only a random attack draws. -/
theorem Action.reach_any (a : Action) (origin : Origin) (target : Option Nat) (size : Nat) :
    (∃ fault, ∀ {τ : Type} [Chance τ] (source : τ),
        a.reach origin target size source = .error fault) ∨
      (a.targeting? = some .random ∧ 0 < size ∧ ∀ {τ : Type} [Chance τ] (source : τ),
        a.reach origin target size source =
          .ok ([(Chance.index size source).1], (Chance.index size source).2)) ∨
      (a.targeting? ≠ some .random ∧ ∃ places, ∀ {τ : Type} [Chance τ] (source : τ),
        a.reach origin target size source = .ok (places, source)) := by
  cases a with
  | attack a =>
    rcases a.targeting.recipients_any size target with h | ⟨ht, h⟩ | ⟨ht, h⟩
    · exact .inl h
    · exact .inr (.inl ⟨congrArg some ht, h⟩)
    · exact .inr (.inr ⟨fun hrandom => ht (Option.some.inj hrandom), h⟩)
  | burn n | poison n =>
    rcases Targeting.declared.recipients_any size target with h | ⟨ht, -⟩ | ⟨-, h⟩
    · exact .inl h
    · cases ht
    · exact .inr (.inr ⟨nofun, h⟩)
  | defend n =>
    by_cases haim : origin.aim = .opponent
    · simp only [Action.reach, haim, if_true]
      rcases Targeting.declared.recipients_any size target with h | ⟨ht, -⟩ | ⟨-, h⟩
      · exact .inl h
      · cases ht
      · exact .inr (.inr ⟨nofun, h⟩)
    · simp only [Action.reach, haim, if_false]
      exact .inr (.inr ⟨nofun, [], fun _ => rfl⟩)
  | _ => exact .inr (.inr ⟨nofun, [], fun _ => rfl⟩)

end Skirmish
