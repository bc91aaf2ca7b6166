import Skirmish.Proofs.Combat.Sound
import Skirmish.Proofs.Fighter.Checked
import Skirmish.Proofs.Plan

/-!
# Checked combats

The checked forms of a combat's operations, built from those of fighters: each gives up at the
first plain difference that is no amount. `Sound.step?` and `Sound.enact?` say that in a sound
combat no step and no plan gives up, and that each ends where the plain one does.
-/

namespace Skirmish.Combat

variable {σ : Type}

def strike? (damage : Amount) (c : Combat σ) (i : Nat) : Option (Combat σ) :=
  match c.pool[i]? with
  | none => some c
  | some opponent => do
    let clash ← opponent.clash? c.actor damage .attack
    let c := { c with actor := clash.attacker, pool := c.pool.set i clash.struck }
    some (if clash.impact.reflected.isSome then c.cue .spikes else c)

def attack? (c : Combat σ) (amount : Amount) (slot : Option Slot) (places : List Nat) :
    Option (Combat σ) :=
  let damage := Saturating.add amount c.actor.buffs.attack
  let c := c.cue (.strike slot)
  if damage < 1 then some c else places.foldlM (strike? damage) c

/-- Only attacks and heals take plain differences. -/
def carryOut? (c : Combat σ) (a : Action) (origin : Origin) (places : List Nat) :
    Option (Combat σ) :=
  match a with
  | .attack a => c.attack? a.amount origin.slot places
  | .heal n => do
    let actor ← c.actor.heal? n
    some { c.cue .heal with actor }
  | a => some (c.carryOut a origin places)

theorem Sound.strike? {c : Combat σ} (h : c.Sound) (damage : Amount) (i : Nat) :
    c.strike? damage i = some (c.strike damage i) := by
  unfold Combat.strike? Combat.strike
  cases hi : c.pool[i]? with
  | none => rfl
  | some f =>
    have hf := h.pool f (List.mem_of_getElem? hi)
    simp only [hf.clash? h.actor damage .attack, Option.bind_eq_bind, Option.bind_some]

theorem Sound.strikes? {c : Combat σ} (h : c.Sound) (damage : Amount) (places : List Nat) :
    places.foldlM (Combat.strike? damage) c = some (places.foldl (Combat.strike damage) c) := by
  induction places generalizing c with
  | nil => rfl
  | cons i places ih =>
    rw [List.foldlM_cons, h.strike? damage i, List.foldl_cons]
    exact ih (h.strike damage i)

theorem Sound.attack? {c : Combat σ} (h : c.Sound) (amount : Amount) (slot : Option Slot)
    (places : List Nat) : c.attack? amount slot places = some (c.attack amount slot places) := by
  unfold Combat.attack? Combat.attack
  simp only
  split
  · rfl
  · exact (h.cue _).strikes? _ places

theorem Sound.carryOut? {c : Combat σ} (h : c.Sound) (a : Action) (origin : Origin)
    (places : List Nat) : c.carryOut? a origin places = some (c.carryOut a origin places) := by
  cases a with
  | attack a => exact h.attack? _ _ _
  | heal n =>
    unfold Combat.carryOut?
    simp only [h.actor.heal? n]
    rfl
  | _ => rfl

variable [Chance σ]

/-- One round, from a combat that may have been given up. -/
def round? (origin : Origin) (target : Option Nat) (a : Action) :
    Option (Combat σ) → Except Fault (Option (Combat σ))
  | none => .ok none
  | some c =>
    (a.reach origin target c.pool.length c.source).map fun (places, source) =>
      { c with source }.carryOut? a origin places

/-- The combat after a step, if it was not given up. -/
def step? (c : Combat σ) (s : Sequence) (target : Option Nat) : Option (Combat σ) :=
  match s.pending with
  | [] => some c
  | a :: _ =>
    match round? s.origin target a (some c) with
    | .error _ => some c
    | .ok c => c

/-- The combat after a plan, if it was not given up. -/
def enact? (c : Combat σ) (p : Plan) (target : Option Nat) : Option (Combat σ) :=
  (course (round? p.origin target) p.dues (some c)).state

/-- In a sound combat a checked round goes as the plain one does. -/
theorem Sound.round? {c : Combat σ} (h : c.Sound) (origin : Origin) (target : Option Nat)
    (a : Action) :
    Agree (fun c d => d = some c ∧ c.Sound) (c.round origin target a)
      (Combat.round? origin target a (some c)) := by
  unfold Combat.round?
  cases hr : c.round origin target a with
  | error fault =>
    simp only [round_eq_error_iff.1 hr]
    exact .error fault
  | ok c' =>
    obtain ⟨places, source, hre, rfl⟩ := round_eq_ok_iff.1 hr
    have hs : ({ c with source } : Combat σ).Sound := { h with }
    simp only [hre]
    exact .ok ⟨hs.carryOut? a origin places, h.round hr⟩

theorem Sound.step? {c : Combat σ} (h : c.Sound) (s : Sequence) (target : Option Nat)
    (pacing : Pacing) : c.step? s target = some (s.step target pacing c).combat := by
  unfold Combat.step?
  cases hp : s.pending with
  | nil => rw [s.step_of_pending_nil hp]
  | cons a rest =>
    have ha := h.round? s.origin target a
    simp only
    generalize Combat.round? s.origin target a (some c) = x at ha
    cases hr : c.round s.origin target a with
    | error fault =>
      rw [hr] at ha
      cases ha
      rw [Sequence.step_of_round_error hp hr]
    | ok c' =>
      rw [hr] at ha
      cases ha with
      | ok hd =>
        obtain ⟨b, hb⟩ := Sequence.step_of_round_ok hp hr pacing
        rw [hb]
        exact hd.1

theorem Sound.enact? {c : Combat σ} (h : c.Sound) (p : Plan) (target : Option Nat) :
    c.enact? p target = some (c.enact p target).2 := by
  have hround : ∀ n a (c : Combat σ) d, n < p.dues.length → True → (d = some c ∧ c.Sound) →
      Agree (fun c d => d = some c ∧ c.Sound) (c.round p.origin target a)
        (Combat.round? p.origin target a d) := by
    rintro n a c d - - ⟨rfl, hc⟩
    exact hc.round? p.origin target a
  obtain ⟨-, m, -, hm, -⟩ := course_agree _ _
    (fun _ (c : Combat σ) d => d = some c ∧ c.Sound) hround
    (fun due _ => trivial) (Nat.le_of_eq (Nat.zero_add p.dues.length)) ⟨rfl, h⟩
  rw [Combat.enact?, hm, enact_eq_course]
  rfl

theorem Sound.step {c : Combat σ} (h : c.Sound) (s : Sequence) (target : Option Nat)
    (pacing : Pacing) : (s.step target pacing c).combat.Sound := by
  cases hp : s.pending with
  | nil => rw [s.step_of_pending_nil hp]; exact h
  | cons a rest =>
    cases hr : c.round s.origin target a with
    | error fault => rw [Sequence.step_of_round_error hp hr]; exact h
    | ok c' =>
      obtain ⟨b, hb⟩ := Sequence.step_of_round_ok hp hr pacing
      rw [hb]
      exact h.round hr

theorem Sound.enact {c : Combat σ} (h : c.Sound) (p : Plan) (target : Option Nat) :
    (c.enact p target).2.Sound :=
  enact_keeps (fun _ _ _ _ hc hr => hc.round hr) h

end Skirmish.Combat
