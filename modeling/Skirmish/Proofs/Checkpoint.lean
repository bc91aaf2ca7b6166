import Skirmish.Chance.Generator
import Skirmish.Proofs.Parts
import Skirmish.Proofs.Replay

/-!
# Checkpoints

A session puts questions to a generator, saves checkpoints and goes back to them. A timeline obeys
the same commands with nothing but lists of questions: those that led to where the session stands,
and those that led to each save. Every command does the same to both (`session_obey`), so however
often a generator was restored, it is the first one after the questions of the timeline.

A plan may be carried out in stretches, with a generator that was saved and loaded again between
them. The stretches joined are one run of single steps (`interrupted_eq_paced`).
-/

namespace Skirmish

/-! ## Questions -/

/-- What a source of chance is asked for. -/
inductive Question where
  | unit
  | index (bound : Nat)
  deriving DecidableEq, Repr

inductive Answer where
  | unit (x : Float)
  | index (i : Nat)
  deriving Repr

/-- The answer, and the source after the draw. -/
def Question.put {σ : Type} [Chance σ] (q : Question) (source : σ) : Answer × σ :=
  match q with
  | .unit => (.unit (Chance.unit source).1, (Chance.unit source).2)
  | .index bound => (.index (Chance.index bound source).1, (Chance.index bound source).2)

namespace Generator

/-- The position wraps around at the end of the stream. -/
theorem checkpoint_ofCheckpoint (c : Checkpoint) :
    (ofCheckpoint c).checkpoint = { c with wordPosition := c.wordPosition % 2 ^ 68 } := by
  unfold checkpoint ofCheckpoint
  rw [BitVec.toNat_ofNat]

/-- Saved and loaded again. -/
def reloaded (g : Generator) : Generator := ofCheckpoint g.checkpoint

@[simp] theorem reloaded_eq (g : Generator) : g.reloaded = g := ofCheckpoint_checkpoint g

def asked (g : Generator) (questions : List Question) : Generator :=
  questions.foldl (fun g q => (q.put g).2) g

theorem asked_append_singleton (g : Generator) (questions : List Question) (q : Question) :
    g.asked (questions ++ [q]) = (q.put (g.asked questions)).2 := List.foldl_append

/-- The answers to some questions, each with the checkpoint behind it. -/
def answers (g : Generator) (questions : List Question) : List (Answer × Checkpoint) :=
  match questions with
  | [] => []
  | q :: questions => ((q.put g).1, (q.put g).2.checkpoint) :: (q.put g).2.answers questions

theorem answers_append (g : Generator) (earlier later : List Question) :
    g.answers (earlier ++ later) = g.answers earlier ++ (g.asked earlier).answers later := by
  induction earlier generalizing g with
  | nil => rfl
  | cons q earlier ih => exact congrArg (List.cons _) (ih (q.put g).2)

end Generator

/-! ## Sessions -/

inductive Command where
  | ask (q : Question)
  | save
  /-- Goes back to a save, by its number. -/
  | restore (number : Nat)
  deriving DecidableEq, Repr

structure Session where
  generator : Generator
  /-- The checkpoints so far, the first one in front. -/
  saves : List Checkpoint := []

namespace Session

/-- A number that no save has yet restores nothing. -/
def obey (s : Session) (command : Command) : Session :=
  match command with
  | .ask q => { s with generator := (q.put s.generator).2 }
  | .save => { s with saves := s.saves ++ [s.generator.checkpoint] }
  | .restore number =>
    match s.saves[number]? with
    | none => s
    | some saved => { s with generator := .ofCheckpoint saved }

def after (s : Session) (commands : List Command) : Session := commands.foldl obey s

theorem saves_obey (s : Session) (command : Command) : s.saves <+: (s.obey command).saves := by
  cases command with
  | ask q => exact List.prefix_rfl
  | save => exact List.prefix_append _ _
  | restore number =>
    unfold obey
    dsimp only
    cases s.saves[number]? with
    | none => exact List.prefix_rfl
    | some saved => exact List.prefix_rfl

/-- Saves keep their numbers. -/
theorem saves_after (s : Session) (commands : List Command) :
    s.saves <+: (s.after commands).saves := by
  induction commands generalizing s with
  | nil => exact List.prefix_rfl
  | cons command commands ih => exact (s.saves_obey command).trans (ih (s.obey command))

/-- Whatever was done since a save, going back to it leads to the generator that was saved. -/
theorem generator_restored (s : Session) (since : List Command) :
    (s.after (.save :: since ++ [.restore s.saves.length])).generator = s.generator := by
  have hsaved : ((s.obey .save).after since).saves[s.saves.length]? =
      some s.generator.checkpoint := by
    obtain ⟨more, hmore⟩ := (s.obey .save).saves_after since
    rw [← hmore]
    show (s.saves ++ [s.generator.checkpoint] ++ more)[s.saves.length]? = _
    rw [List.append_assoc, List.getElem?_append_right (Nat.le_refl _), Nat.sub_self]
    rfl
  have hlast : s.after (.save :: since ++ [.restore s.saves.length]) =
      ((s.obey .save).after since).obey (.restore s.saves.length) := List.foldl_append
  rw [hlast]
  generalize (s.obey .save).after since = s' at hsaved ⊢
  rw [obey, hsaved]
  exact s.generator.reloaded_eq

end Session

/-! ## Timelines -/

/-- What a session has come from, told by the questions alone. -/
structure Timeline where
  asked : List Question := []
  /-- What had been asked at each save. -/
  saves : List (List Question) := []

namespace Timeline

def obey (t : Timeline) (command : Command) : Timeline :=
  match command with
  | .ask q => { t with asked := t.asked ++ [q] }
  | .save => { t with saves := t.saves ++ [t.asked] }
  | .restore number =>
    match t.saves[number]? with
    | none => t
    | some asked => { t with asked }

def after (t : Timeline) (commands : List Command) : Timeline := commands.foldl obey t

/-- The session that the timeline of a generator leads to. -/
def session (t : Timeline) (g : Generator) : Session where
  generator := g.asked t.asked
  saves := t.saves.map fun asked => (g.asked asked).checkpoint

theorem session_obey (t : Timeline) (g : Generator) (command : Command) :
    (t.session g).obey command = (t.obey command).session g := by
  cases command with
  | ask q =>
    unfold obey session
    rw [Generator.asked_append_singleton]
    rfl
  | save =>
    unfold obey session
    rw [List.map_append]
    rfl
  | restore number =>
    have hsaved : (t.session g).saves[number]? =
        t.saves[number]?.map fun asked => (g.asked asked).checkpoint := List.getElem?_map
    unfold Session.obey obey
    dsimp only
    rw [hsaved]
    cases t.saves[number]? with
    | none => rfl
    | some asked =>
      -- The one place where a checkpoint is loaded.
      dsimp only [Option.map_some]
      rw [Generator.ofCheckpoint_checkpoint]
      rfl

theorem session_after (t : Timeline) (g : Generator) (commands : List Command) :
    (t.session g).after commands = (t.after commands).session g :=
  List.foldl_hom (session · g) fun t command => t.session_obey g command

/-- Saves are gone back to in any order, and as often as one likes. -/
example : ({} : Timeline).after [.ask (.index 6), .save, .ask .unit, .save, .restore 0,
    .ask (.index 2), .restore 1, .ask (.index 3), .restore 1] =
    { asked := [.index 6, .unit], saves := [[.index 6], [.index 6, .unit]] } := rfl

end Timeline

/-! ## Interrupted plans -/

/-- The combat with its generator saved and loaded again. -/
def Combat.reloaded (c : Combat Generator) : Combat Generator := c.withSource c.source.reloaded

theorem Combat.reloaded_eq (c : Combat Generator) : c.reloaded = c := by
  unfold reloaded
  rw [Generator.reloaded_eq]
  rfl

namespace Sequence

/-- Makes steps in stretches, and saves and loads the generator behind each of them. -/
def interrupted (s : Sequence) (target : Option Nat) (stretches : List (List Pacing))
    (c : Combat Generator) : After (Except Fault Nat) Generator :=
  match stretches with
  | [] => ⟨.ok 0, s, c⟩
  | stretch :: stretches =>
    (s.paced target stretch c).onward fun rest c => rest.interrupted target stretches c.reloaded

theorem interrupted_eq_paced (s : Sequence) (target : Option Nat) (stretches : List (List Pacing))
    (c : Combat Generator) :
    s.interrupted target stretches c = s.paced target stretches.flatten c := by
  induction stretches generalizing s c with
  | nil => rfl
  | cons stretch stretches ih =>
    rw [interrupted, List.flatten_cons, paced_append]
    simp only [Combat.reloaded_eq, ih]

theorem run_eq_interrupted (s : Sequence) (target : Option Nat) (stretches : List (List Pacing))
    (pacing : Pacing) (c : Combat Generator) :
    s.run target pacing c =
      (s.interrupted target stretches c).onward fun rest c => rest.run target pacing c := by
  rw [interrupted_eq_paced]
  exact s.run_eq_paced target stretches.flatten pacing c

end Sequence

/-- A checkpoint is all that there is to a generator. Loaded behind some questions, it answers the
next ones as the generator itself would have done, and after each of them it stands in the same
place. Whatever a session did since a save, going back to it leads to the answers that follow the
save; a session and its saves are where the questions of its timeline lead the first generator. A
plan that is interrupted between any of its steps, to save and load the generator, ends as it does
in one go. -/
theorem reload_exact :
    (∀ start : Checkpoint, (Generator.ofCheckpoint start).checkpoint =
      { start with wordPosition := start.wordPosition % 2 ^ 68 }) ∧
    (∀ (g : Generator) (earlier later : List Question),
      g.answers (earlier ++ later) =
        g.answers earlier ++ (g.asked earlier).reloaded.answers later) ∧
    (∀ (g : Generator) (before since : List Command) (later : List Question),
      let saved := ({ generator := g } : Session).after before
      let restored := saved.after (.save :: since ++ [.restore saved.saves.length])
      restored.generator.answers later = saved.generator.answers later) ∧
    (∀ (g : Generator) (commands : List Command),
      ({ generator := g } : Session).after commands =
        (({} : Timeline).after commands).session g) ∧
    ∀ (c : Combat Generator) (p : Plan) (target : Option Nat) (stretches : List (List Pacing))
      (pacing : Pacing),
      let after := (p.sequence.interrupted target stretches c).onward
        fun rest c => rest.run target pacing c
      c.enact p target = (after.report, after.combat) := by
  refine ⟨Generator.checkpoint_ofCheckpoint, fun g earlier later => ?_,
    fun g before since later => ?_, fun g commands => ?_,
    fun c p target stretches pacing => ?_⟩
  · rw [Generator.reloaded_eq]
    exact g.answers_append earlier later
  · exact congrArg (Generator.answers · later) (Session.generator_restored _ since)
  · exact Timeline.session_after {} g commands
  · rw [Combat.enact_eq_follow, Combat.follow, p.sequence.run_pacing target {} pacing,
      Sequence.run_eq_interrupted]

end Skirmish
