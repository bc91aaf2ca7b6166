import Skirmish.Chance.Script
import Skirmish.Proofs.Chance
import Skirmish.Proofs.Walk

/-!
# Replays

`Draws size places source source'` says what a run takes from its source: from `source`, drawing
indices below `size` gives the `places` and leaves `source'`. An action draws the places of a random
attack and nothing else, and any other source that answers alike lets it reach the same places
(`Action.reach_draws`). Since nobody joins or leaves the pool, so it is with the whole run
(`run_draws`). So a run can be recorded, and a script of the places that its random attacks struck
replays it (`enact_replay`).
-/

namespace Skirmish

variable {σ τ : Type}

/-! ## Draws -/

section

variable [Chance σ]

inductive Draws (size : Nat) : List Nat → σ → σ → Prop
  | nil (source : σ) : Draws size [] source source
  | cons {places : List Nat} {source source' : σ} : 0 < size →
      Draws size places (Chance.index size source).2 source' →
      Draws size ((Chance.index size source).1 :: places) source source'

namespace Draws

variable {size : Nat} {places more : List Nat} {source source' source'' : σ}

theorem append (h : Draws size places source source') (hmore : Draws size more source' source'') :
    Draws size (places ++ more) source source'' := by
  induction h with
  | nil => exact hmore
  | cons hsize _ ih => exact .cons hsize (ih hmore)

theorem split (h : Draws size (places ++ more) source source'') :
    ∃ source', Draws size places source source' ∧ Draws size more source' source'' := by
  induction places generalizing source with
  | nil => exact ⟨source, .nil source, h⟩
  | cons i places ih =>
    cases h with
    | cons hsize h =>
      obtain ⟨source', hplaces, hmore⟩ := ih h
      exact ⟨source', .cons hsize hplaces, hmore⟩

theorem lt [LawfulChance σ] (h : Draws size places source source') : ∀ i ∈ places, i < size := by
  induction h with
  | nil => exact List.forall_mem_nil _
  | cons hsize _ ih => exact List.forall_mem_cons.2 ⟨LawfulChance.index_lt _ _ hsize, ih⟩

/-- The calls of a recorded source are the draws. -/
theorem recorded (h : Draws size places source source') (calls : List Call) :
    Draws size places ({ source, calls } : Recorded σ)
      { source := source', calls := calls ++ places.map (Call.index size) } := by
  induction h generalizing calls with
  | nil source =>
    rw [List.map_nil, List.append_nil]
    exact .nil _
  | @cons places source source' hsize _ ih =>
    have hrest := ih (calls ++ [.index size (Chance.index size source).1])
    rw [List.append_assoc] at hrest
    exact @Draws.cons (Recorded σ) _ size places { source, calls } _ hsize hrest

theorem index_script {before : List Nat} {i : Nat} (hi : i < size) :
    Chance.index size
        ({ indices := (before ++ i :: places).toArray, indicesDrawn := before.length } : Script) =
      (i, { indices := (before ++ i :: places).toArray, indicesDrawn := before.length + 1 }) := by
  have hentry : Script.entry? (before ++ i :: places).toArray before.length = some i := by
    unfold Script.entry?
    rw [Nat.mod_eq_of_lt (by simp)]
    simp
  show Script.index size _ = _
  unfold Script.index
  rw [hentry]
  cases size with
  | zero => cases hi
  | succ size =>
    show (i % (size + 1), _) = _
    rw [Nat.mod_eq_of_lt hi]

/-- A script answers with its own entries, as long as they are below the bound. -/
theorem script (before : List Nat) (h : ∀ i ∈ places, i < size) :
    Draws size places
      ({ indices := (before ++ places).toArray, indicesDrawn := before.length } : Script)
      { indices := (before ++ places).toArray, indicesDrawn := (before ++ places).length } := by
  induction places generalizing before with
  | nil =>
    rw [List.append_nil]
    exact .nil _
  | cons i places ih =>
    obtain ⟨hi, hplaces⟩ := List.forall_mem_cons.1 h
    have hrest := ih (before ++ [i]) hplaces
    rw [List.append_assoc, List.length_append, List.length_singleton,
      List.singleton_append] at hrest
    have hindex := @index_script size places before i hi
    have hcons := @Draws.cons Script _ size places
      { indices := (before ++ i :: places).toArray, indicesDrawn := before.length }
      { indices := (before ++ i :: places).toArray, indicesDrawn := (before ++ i :: places).length }
      (Nat.zero_lt_of_lt hi)
    rw [hindex] at hcons
    exact hcons hrest

end Draws

end

/-! ## Other sources -/

namespace Combat

/-- The same combat with another source. -/
def withSource (c : Combat σ) (source : τ) : Combat τ := { c with source }

@[simp] theorem actor_withSource (c : Combat σ) (source : τ) :
    (c.withSource source).actor = c.actor := rfl

@[simp] theorem pool_withSource (c : Combat σ) (source : τ) :
    (c.withSource source).pool = c.pool := rfl

@[simp] theorem source_withSource (c : Combat σ) (source : τ) :
    (c.withSource source).source = source := rfl

theorem cue_withSource (c : Combat σ) (source : τ) (q : Cue) :
    (c.withSource source).cue q = (c.cue q).withSource source := rfl

theorem strike_withSource (c : Combat σ) (source : τ) (damage : Amount) (i : Nat) :
    (c.withSource source).strike damage i = (c.strike damage i).withSource source := by
  unfold strike
  rw [pool_withSource]
  cases c.pool[i]? with
  | none => rfl
  | some opponent =>
    dsimp only [actor_withSource]
    by_cases hreflected : (opponent.clash c.actor damage .attack).impact.reflected.isSome
    · rw [if_pos hreflected, if_pos hreflected]
      rfl
    · rw [if_neg hreflected, if_neg hreflected]
      rfl

theorem strikes_withSource (places : List Nat) (c : Combat σ) (source : τ) (damage : Amount) :
    places.foldl (strike damage) (c.withSource source) =
      (places.foldl (strike damage) c).withSource source := by
  induction places generalizing c with
  | nil => rfl
  | cons i places ih => rw [List.foldl_cons, strike_withSource, ih, List.foldl_cons]

theorem attack_withSource (c : Combat σ) (source : τ) (amount : Amount) (slot : Option Slot)
    (places : List Nat) : (c.withSource source).attack amount slot places =
      (c.attack amount slot places).withSource source := by
  unfold attack
  dsimp only [actor_withSource]
  rw [cue_withSource, strikes_withSource]
  by_cases hdamage : Saturating.add amount c.actor.buffs.attack < 1
  · rw [if_pos hdamage, if_pos hdamage]
  · rw [if_neg hdamage, if_neg hdamage]

/-- What is carried out has nothing to do with the source. -/
theorem carryOut_withSource (c : Combat σ) (source : τ) (a : Action) (origin : Origin)
    (places : List Nat) : (c.withSource source).carryOut a origin places =
      (c.carryOut a origin places).withSource source := by
  cases a with
  | attack a => exact attack_withSource c source _ _ _
  | defend n =>
    unfold carryOut
    dsimp only
    by_cases haim : origin.aim = .opponent
    · rw [if_pos haim, if_pos haim]
      rfl
    · rw [if_neg haim, if_neg haim]
      rfl
  | _ => rfl

theorem source_carryOut (c : Combat σ) (a : Action) (origin : Origin) (places : List Nat) :
    (c.carryOut a origin places).source = c.source := by
  have hsource := congrArg Combat.source (carryOut_withSource c c.source a origin places)
  exact hsource

end Combat

/-! ## Runs -/

variable [Chance σ]

namespace Action

variable {a : Action} {origin : Origin} {target : Option Nat} {size : Nat} {source next : σ}
  {places : List Nat}

/-- The places that an action drew, of those that it reached. -/
def drawn (a : Action) (places : List Nat) : List Nat :=
  if a.targeting? = some .random then places else []

theorem reach_error {fault : Fault}
    (h : a.reach origin target size source = .error fault) {τ : Type} [Chance τ] (source' : τ) :
    a.reach origin target size source' = .error fault := by
  rcases a.reach_any origin target size with
    ⟨fault', hr⟩ | ⟨-, -, hr⟩ | ⟨-, places, hr⟩
  · rw [hr source] at h
    obtain rfl := Except.error.inj h
    exact hr source'
  · rw [hr source] at h
    cases h
  · rw [hr source] at h
    cases h

theorem reach_draws (h : a.reach origin target size source = .ok (places, next)) :
    Draws size (a.drawn places) source next ∧
      ∀ {τ : Type} [Chance τ] {source' next' : τ}, Draws size (a.drawn places) source' next' →
        a.reach origin target size source' = .ok (places, next') := by
  unfold drawn
  rcases a.reach_any origin target size with
    ⟨fault, hr⟩ | ⟨hrandom, hsize, hr⟩ | ⟨hrandom, places', hr⟩
  · rw [hr source] at h
    cases h
  · rw [hr source] at h
    obtain ⟨rfl, rfl⟩ := Prod.mk.inj (Except.ok.inj h)
    rw [if_pos hrandom]
    refine ⟨.cons hsize (.nil _), fun {τ} _ {source' next'} hdraws => ?_⟩
    rw [hr source']
    -- The other source gives the same answer, whichever it is.
    generalize (Chance.index size source).1 = i at hdraws ⊢
    cases hdraws with
    | cons _ hnil =>
      cases hnil
      rfl
  · rw [hr source] at h
    obtain ⟨rfl, rfl⟩ := Prod.mk.inj (Except.ok.inj h)
    rw [if_neg hrandom]
    refine ⟨.nil _, fun {τ} _ {source' next'} hdraws => ?_⟩
    cases hdraws
    exact hr source'

end Action

/-- The places that random attacks struck along a walk. -/
def picks (steps : List (Action × Boundary)) : List Nat :=
  steps.flatMap fun (a, b) => a.drawn b.recipients

namespace Sequence

theorem drawn_boundary (s : Sequence) (a : Action) (places : List Nat) (pacing : Pacing) :
    a.drawn (s.boundary a places pacing).recipients = a.drawn places := by
  unfold Action.drawn boundary
  by_cases hrandom : a.targeting? = some .random
  · rw [if_pos hrandom, if_pos hrandom, hrandom]
    rfl
  · rw [if_neg hrandom, if_neg hrandom]

theorem recipients_of_random (s : Sequence) {a : Action} (hrandom : a.targeting? = some .random)
    {origin : Origin} {target : Option Nat} {size : Nat} {source next : σ} {places : List Nat}
    (hr : a.reach origin target size source = .ok (places, next)) (pacing : Pacing) :
    ∃ i, (s.boundary a places pacing).recipients = [i] := by
  rcases a.reach_any origin target size with
    ⟨fault, hreach⟩ | ⟨-, -, hreach⟩ | ⟨hnot, -⟩
  · rw [hreach source] at hr
    cases hr
  · rw [hreach source] at hr
    obtain ⟨rfl, -⟩ := Prod.mk.inj (Except.ok.inj hr)
    refine ⟨_, if_pos ?_⟩
    rw [hrandom]
    rfl
  · exact absurd hrandom hnot

/-- A committed step draws its random strike, and is made alike with a source that answers alike. -/
theorem step_draws {s : Sequence} {a : Action} {tail : List Action} (hp : s.pending = a :: tail)
    {target : Option Nat} {c : Combat σ} {places : List Nat} {next : σ}
    (hr : a.reach s.origin target c.pool.length c.source = .ok (places, next)) (pacing : Pacing)
    {source source' : τ} [Chance τ] (h : Draws c.pool.length (a.drawn places) source source') :
    s.step target pacing (c.withSource source) =
      ⟨.committed (s.boundary a places pacing), s.advance a,
        ({ c with source := next }.carryOut a s.origin places).withSource source'⟩ := by
  have hreach := (Action.reach_draws hr).2 h
  rw [← Combat.carryOut_withSource]
  exact step_of_reach_ok (c := c.withSource source) hp hreach pacing

theorem picks_cons (s : Sequence) (a : Action) (places : List Nat) (pacing : Pacing)
    (steps : List (Action × Boundary)) :
    picks ((a, s.boundary a places pacing) :: steps) = a.drawn places ++ picks steps := by
  rw [← drawn_boundary s a places pacing]
  rfl

/-- A run draws the picks of its walk, and goes alike with a source that answers alike. -/
theorem run_draws (s : Sequence) (target : Option Nat) (pacing : Pacing) (c : Combat σ) :
    Draws c.pool.length (picks (s.walk target pacing c)) c.source
        (s.run target pacing c).combat.source ∧
      ∀ {τ : Type} [Chance τ] {source source' : τ},
        Draws c.pool.length (picks (s.walk target pacing c)) source source' →
        s.walk target pacing (c.withSource source) = s.walk target pacing c ∧
          s.run target pacing (c.withSource source) =
            ⟨(s.run target pacing c).report, (s.run target pacing c).rest,
              (s.run target pacing c).combat.withSource source'⟩ := by
  induction s, c using @run_induction σ _ target pacing with
  | finished s c hp h =>
    rw [walk_of_finished h, run_of_finished h]
    refine ⟨.nil _, fun {τ} _ {source source'} hdraws => ?_⟩
    cases hdraws
    have h' := step_of_pending_nil hp target pacing (c.withSource source)
    exact ⟨walk_of_finished h', run_of_finished h'⟩
  | failed s c a tail fault hp hr h =>
    rw [walk_of_failed h, run_of_failed h]
    refine ⟨.nil _, fun {τ} _ {source source'} hdraws => ?_⟩
    cases hdraws
    have h' := step_of_reach_error (c := c.withSource source) hp (Action.reach_error hr source)
      pacing
    exact ⟨walk_of_failed h', run_of_failed h'⟩
  | committed s c a tail places next hp hr h ih =>
    -- The pool keeps its size, so what is left of the run draws from the same bound.
    rw [Combat.length_pool_carryOut, Combat.source_carryOut] at ih
    obtain ⟨ihdraws, ihother⟩ := ih
    rw [walk_of_committed hp h, run_of_committed h, picks_cons]
    refine ⟨(Action.reach_draws hr).1.append ihdraws, fun {τ} _ {source source'} hdraws => ?_⟩
    obtain ⟨middle, hfirst, hrest⟩ := hdraws.split
    have h' := step_draws hp hr pacing hfirst
    obtain ⟨hwalk, hrun⟩ := ihother hrest
    rw [walk_of_committed hp h', run_of_committed h', hwalk, hrun]
    exact ⟨rfl, rfl⟩

end Sequence

/-! ## Recording and replaying -/

/-- A run asks its source for nothing but the places of its random attacks, one index below the
size of the pool for each committed step of them, in order. A script of these places replays it:
the replay has the same result and strikes the same places at every step, leaves the same fighters,
cues and draws, and has used every entry of the script once. -/
theorem enact_replay [LawfulChance σ] (c : Combat σ) (p : Plan) (target : Option Nat) :
    let steps := p.sequence.walk target {} c
    let recorded := (c.withSource ({ source := c.source } : Recorded σ)).enact p target
    let script : Script := { indices := (picks steps).toArray }
    let replayed := (c.withSource script).enact p target
    (∀ n, (c.enact p target).1 = .ok n → steps.length = n) ∧
      (∀ made ∈ steps, made.1.targeting? = some .random → ∃ i, made.2.recipients = [i]) ∧
      c.enact p target = (recorded.1, recorded.2.withSource recorded.2.source.source) ∧
      recorded.2.source.calls = (picks steps).map (Call.index c.pool.length) ∧
      p.sequence.walk target {} (c.withSource script) = steps ∧
      replayed = ((c.enact p target).1, (c.enact p target).2.withSource
        { script with indicesDrawn := (picks steps).length }) := by
  intro steps recorded script replayed
  obtain ⟨hdraws, hother⟩ := p.sequence.run_draws target {} c
  have henact {τ : Type} [Chance τ] (d : Combat τ) :
      d.enact p target =
        ((p.sequence.run target {} d).report, (p.sequence.run target {} d).combat) :=
    d.enact_eq_follow p target
  have hrecorded : recorded = ((c.enact p target).1, (c.enact p target).2.withSource
      { source := (c.enact p target).2.source
        calls := (picks steps).map (Call.index c.pool.length) }) := by
    show Combat.enact _ p target = _
    rw [henact, henact, (hother (hdraws.recorded [])).2]
    rfl
  have hscript : Draws c.pool.length (picks steps) script
      { script with indicesDrawn := (picks steps).length } := Draws.script [] hdraws.lt
  obtain ⟨hwalk, hrun⟩ := hother hscript
  refine ⟨fun n hn => ?_, ?_, ?_, ?_, hwalk, ?_⟩
  · rw [henact] at hn
    exact Sequence.length_walk hn
  · exact Sequence.forall_mem_walk
      (fun s c a places source hr hrandom => s.recipients_of_random hrandom hr {}) p.sequence c
  · rw [hrecorded]
    rfl
  · rw [hrecorded]
    rfl
  · show Combat.enact _ p target = _
    rw [henact, henact, hrun]

/-- Two random strikes of a script that is no replay, and an attack on nobody behind them. -/
theorem enact_replay_script :
    let c : Combat Script :=
      { actor := .fresh 30, pool := [.fresh 9, .fresh 9, .fresh 9],
        source := { indices := #[7, 5] } }
    let p : Plan := .bare [.attack { amount := 4, random := true, times := 2 },
      .attack { amount := 1 }, .draw 1]
    let replayed := (c.withSource ({ indices := #[1, 2] } : Script)).enact p none
    picks (p.sequence.walk none {} c) = [1, 2] ∧ (c.enact p none).1 = .error .noTarget ∧
      replayed.1 = .error .noTarget ∧ replayed.2.pool = (c.enact p none).2.pool := by
  intro c p replayed
  obtain ⟨-, -, -, hcalls, -, hreplayed⟩ := enact_replay c p none
  have hrecorded : ((c.withSource ({ source := c.source } : Recorded Script)).enact p
      none).2.source.calls = [1, 2].map (Call.index 3) := by
    rw [Combat.enact_eq_course]
    decide +kernel
  have hinj : Function.Injective (Call.index 3) := fun i j h => (Call.index.inj h).2
  have hpicks : picks (p.sequence.walk none {} c) = [1, 2] :=
    List.map_injective_iff.2 hinj (hcalls.symm.trans hrecorded)
  have hfault : (c.enact p none).1 = .error .noTarget := by
    rw [Combat.enact_eq_course]
    decide +kernel
  rw [hpicks] at hreplayed
  refine ⟨hpicks, hfault, (congrArg Prod.fst hreplayed).trans hfault, ?_⟩
  exact congrArg (fun result => result.2.pool) hreplayed

end Skirmish
