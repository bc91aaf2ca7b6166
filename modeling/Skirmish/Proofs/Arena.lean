import Skirmish.Proofs.Combat.Checked

/-!
# Arenas

Some fighters, and everything that can happen to them: feats of one fighter alone, blows of one
against another, and combats of one against several, in any order and with any amounts.

Each move has a checked form, which gives up at the first plain difference that is no amount. One
move keeps every fighter sound and goes as its checked form does (`Sound.make`, `Sound.make?`), so
any list of moves does, from fighters who have just entered.
-/

namespace Skirmish

/-- How a fighter enters: at full life or at another life total. -/
structure Recruit where
  maxLife : Amount
  life : Option Amount := none
  deriving DecidableEq, Repr

def Recruit.fighter (r : Recruit) : Fighter :=
  match r.life with
  | none => .fresh r.maxLife
  | some life => (Fighter.fresh r.maxLife).atLife life

theorem Recruit.sound_fighter (r : Recruit) : r.fighter.Sound := by
  unfold fighter
  split
  · exact Fighter.sound_fresh _
  · exact (Fighter.sound_fresh _).atLife _

/-! ## Feats -/

/-- What a fighter does, or suffers, alone. -/
inductive Feat where
  | wound (amount : Amount) (type : DamageType)
  | heal (amount : Amount)
  | gainDefense (amount : Amount)
  | gainBurn (amount : Amount)
  | gainPoison (amount : Amount)
  | gainSpike (amount : Amount)
  | buff (stat : Stat) (amount : Amount)
  | cleanse
  | dropDefense
  | sufferBurn
  | sufferPoison
  | decay
  | restore
  | settle
  | atLife (life : Amount)
  deriving DecidableEq, Repr

namespace Feat

def act (f : Fighter) : Feat → Fighter
  | wound n t => (f.wound n t).1
  | heal n => f.heal n
  | gainDefense n => f.gainDefense n
  | gainBurn n => f.gainBurn n
  | gainPoison n => f.gainPoison n
  | gainSpike n => f.gainSpike n
  | buff s n => f.buff s n
  | cleanse => f.cleanse
  | dropDefense => f.dropDefense
  | sufferBurn => f.sufferBurn.1
  | sufferPoison => f.sufferPoison.1
  | decay => f.decay.1
  | restore => f.restore
  | settle => f.settle
  | atLife n => f.atLife n

/-- The other feats take no plain difference. -/
def act? (f : Fighter) : Feat → Option Fighter
  | wound n t => (f.wound? n t).map (·.1)
  | heal n => f.heal? n
  | sufferBurn => f.sufferBurn?.map (·.1)
  | sufferPoison => f.sufferPoison?.map (·.1)
  | decay => f.decay?.map (·.1)
  | feat => some (feat.act f)

end Feat

theorem Fighter.Sound.act {f : Fighter} (h : f.Sound) (feat : Feat) : (feat.act f).Sound := by
  cases feat with
  | wound n t => exact h.wound n t
  | heal n => exact h.heal n
  | gainDefense n => exact h.gainDefense n
  | gainBurn n => exact h.gainBurn n
  | gainPoison n => exact h.gainPoison n
  | gainSpike n => exact h.gainSpike n
  | buff s n => exact h.buff s n
  | cleanse => exact h.cleanse
  | dropDefense => exact h.dropDefense
  | sufferBurn => exact h.sufferBurn
  | sufferPoison => exact h.sufferPoison
  | decay => exact h.decay
  | restore => exact Fighter.sound_restore f
  | settle => exact Fighter.sound_settle h.life
  | atLife n => exact h.atLife n

theorem Fighter.Sound.act? {f : Fighter} (h : f.Sound) (feat : Feat) :
    feat.act? f = some (feat.act f) := by
  cases feat with
  | wound n t => exact congrArg (Option.map (·.1)) (h.wound? n t)
  | heal n => exact h.heal? n
  | sufferBurn => exact congrArg (Option.map (·.1)) h.sufferBurn?
  | sufferPoison => exact congrArg (Option.map (·.1)) h.sufferPoison?
  | decay => exact congrArg (Option.map (·.1)) h.decay?
  | _ => rfl

/-! ## Combats of the arena -/

abbrev Arena (n : Nat) := Fin n → Fighter

variable {n : Nat}

def Arena.Sound (arena : Arena n) : Prop := ∀ i, (arena i).Sound

theorem Arena.Sound.update {arena : Arena n} (h : arena.Sound) (i : Fin n) {f : Fighter}
    (hf : f.Sound) : Arena.Sound (Function.update arena i f) := by
  intro j
  by_cases hj : j = i
  · subst hj
    rw [Function.update_self]
    exact hf
  · rw [Function.update_of_ne hj]
    exact h j

/-- Who fights: one as the actor and others as the pool, nobody twice. -/
structure Cast (n : Nat) where
  actor : Fin n
  pool : List (Fin n)
  distinct : (actor :: pool).Nodup

namespace Cast

variable {σ : Type}

/-- The combat before anything has happened in it. -/
def enter (cast : Cast n) (arena : Arena n) (source : σ) : Combat σ where
  actor := arena cast.actor
  pool := cast.pool.map arena
  source := source

/-- Everyone who fought leaves as the combat left them. -/
def leave (cast : Cast n) (arena : Arena n) (c : Combat σ) : Arena n := fun i =>
  if i = cast.actor then c.actor else (c.pool[cast.pool.idxOf i]?).getD (arena i)

theorem leave_actor (cast : Cast n) (arena : Arena n) (c : Combat σ) :
    cast.leave arena c cast.actor = c.actor := if_pos rfl

theorem map_leave_pool (cast : Cast n) (arena : Arena n) {c : Combat σ}
    (h : c.pool.length = cast.pool.length) : cast.pool.map (cast.leave arena c) = c.pool := by
  obtain ⟨hactor, hpool⟩ := List.nodup_cons.1 cast.distinct
  refine List.ext_getElem (by rw [List.length_map, h]) fun k hk hk' => ?_
  have hne : cast.pool[k] ≠ cast.actor := fun he => hactor (he ▸ List.getElem_mem _)
  rw [List.getElem_map, leave, if_neg hne, hpool.idxOf_getElem]
  rw [List.getElem?_eq_getElem hk', Option.getD_some]

/-- Nobody else has changed. -/
theorem leave_of_notMem (cast : Cast n) (arena : Arena n) {c : Combat σ}
    (h : c.pool.length = cast.pool.length) {i : Fin n} (hi : i ∉ cast.actor :: cast.pool) :
    cast.leave arena c i = arena i := by
  obtain ⟨hactor, hpool⟩ := not_or.1 (List.mem_cons.not.1 hi)
  rw [leave, if_neg hactor, List.idxOf_eq_length hpool, ← h]
  rw [List.getElem?_eq_none (Nat.le_refl _), Option.getD_none]

theorem sound_enter (cast : Cast n) {arena : Arena n} (h : arena.Sound) (source : σ) :
    (cast.enter arena source).Sound := by
  refine ⟨h cast.actor, fun f hf => ?_⟩
  obtain ⟨i, -, rfl⟩ := List.mem_map.1 hf
  exact h i

theorem sound_leave (cast : Cast n) {arena : Arena n} (h : arena.Sound) {c : Combat σ}
    (hc : c.Sound) : Arena.Sound (cast.leave arena c) := by
  intro i
  unfold leave
  split
  · exact hc.actor
  · cases hk : c.pool[cast.pool.idxOf i]? with
    | none => exact h i
    | some f => exact hc.pool f (List.mem_of_getElem? hk)

end Cast

/-- What happens in a combat: a whole plan, or one step of a sequence that may stand anywhere. -/
inductive Scene where
  | enact (p : Plan)
  | step (s : Sequence) (pacing : Pacing)
  deriving DecidableEq, Repr

namespace Scene

variable {σ : Type} [Chance σ]

def play (c : Combat σ) (target : Option Nat) : Scene → Combat σ
  | .enact p => (c.enact p target).2
  | .step s pacing => (s.step target pacing c).combat

def play? (c : Combat σ) (target : Option Nat) : Scene → Option (Combat σ)
  | .enact p => c.enact? p target
  | .step s _ => c.step? s target

end Scene

theorem Combat.Sound.play {σ : Type} [Chance σ] {c : Combat σ} (h : c.Sound)
    (target : Option Nat) (scene : Scene) : (scene.play c target).Sound := by
  cases scene with
  | enact p => exact h.enact p target
  | step s pacing => exact h.step s target pacing

theorem Combat.Sound.play? {σ : Type} [Chance σ] {c : Combat σ} (h : c.Sound)
    (target : Option Nat) (scene : Scene) : scene.play? c target = some (scene.play c target) := by
  cases scene with
  | enact p => exact h.enact? p target
  | step s pacing => exact h.step? s target pacing

/-! ## Moves -/

/-- Whatever may happen next in an arena. -/
inductive Move (n : Nat) : Type 1 where
  | lone (i : Fin n) (feat : Feat)
  | clash (struck attacker : Fin n) (distinct : struck ≠ attacker) (amount : Amount)
      (type : DamageType)
  | combat {σ : Type} [Chance σ] (cast : Cast n) (source : σ) (target : Option Nat) (scene : Scene)

namespace Move

def make (arena : Arena n) : Move n → Arena n
  | .lone i feat => Function.update arena i (feat.act (arena i))
  | .clash i j _ amount type =>
    let clash := (arena i).clash (arena j) amount type
    Function.update (Function.update arena i clash.struck) j clash.attacker
  | @combat _ _ _ cast source target scene =>
    cast.leave arena (scene.play (cast.enter arena source) target)

def make? (arena : Arena n) : Move n → Option (Arena n)
  | .lone i feat => (feat.act? (arena i)).map (Function.update arena i)
  | .clash i j _ amount type => do
    let clash ← (arena i).clash? (arena j) amount type
    some (Function.update (Function.update arena i clash.struck) j clash.attacker)
  | @combat _ _ _ cast source target scene =>
    (scene.play? (cast.enter arena source) target).map (cast.leave arena)

end Move

theorem Arena.Sound.make {arena : Arena n} (h : arena.Sound) (m : Move n) :
    Arena.Sound (m.make arena) := by
  cases m with
  | lone i feat => exact h.update i ((h i).act feat)
  | clash i j _ amount type =>
    have hc := (h i).clash (h j) amount type
    exact (h.update i hc.1).update j hc.2
  | combat cast source target scene =>
    exact cast.sound_leave h ((cast.sound_enter h source).play target scene)

theorem Arena.Sound.make? {arena : Arena n} (h : arena.Sound) (m : Move n) :
    m.make? arena = some (m.make arena) := by
  cases m with
  | lone i feat => simp only [Move.make?, (h i).act?, Option.map_some, Move.make]
  | clash i j _ amount type =>
    simp only [Move.make?, (h i).clash? (h j), Option.bind_eq_bind, Option.bind_some, Move.make]
  | combat cast source target scene =>
    simp only [Move.make?, (cast.sound_enter h source).play?, Option.map_some, Move.make]

theorem Arena.Sound.makes {arena : Arena n} (h : arena.Sound) (moves : List (Move n)) :
    moves.foldlM Move.make? arena = some (moves.foldl Move.make arena) ∧
      Arena.Sound (moves.foldl Move.make arena) := by
  induction moves generalizing arena with
  | nil => exact ⟨rfl, h⟩
  | cons m moves ih =>
    rw [List.foldlM_cons, h.make? m, List.foldl_cons]
    exact ih (h.make m)

/-- Whatever happens to fighters who have entered an arena, in any order and number of moves, no
plain difference of amounts is ever out of range, and everyone stays sound. -/
theorem sound_arena (recruits : Fin n → Recruit) (moves : List (Move n)) :
    moves.foldlM Move.make? (fun i => (recruits i).fighter) =
        some (moves.foldl Move.make fun i => (recruits i).fighter) ∧
      ∀ i, (moves.foldl Move.make (fun i => (recruits i).fighter) i).Sound :=
  Arena.Sound.makes (fun i => (recruits i).sound_fighter) moves

end Skirmish
