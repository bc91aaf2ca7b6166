import Skirmish.Chance.Script
import Skirmish.Proofs.Plan
import Skirmish.Proofs.Readings

/-!
# Cards and their texts

A card and a bare list of its actions differ in two things only: a card shows the slot that it
strikes from, and one that is aimed at an opponent gives its defences away. `Retold` relates two
combats that differ in their cues, and there only in the slot of the card's strikes. Every round
keeps it if the list gains its defences where the card does: the actor gains them in a round of the
list itself, and the declared opponent in one of `bestow`. So playing a card and carrying out its
text end alike (`play_retold`).
-/

namespace Skirmish

/-- The cue of a strike from a slot becomes that of a strike from none. -/
def Cue.without (slot : Slot) : Cue → Cue
  | .strike origin => .strike (if origin = some slot then none else origin)
  | q => q

variable {σ : Type}

namespace Combat

/-- The second combat is the first but for its cues: behind some earlier ones it has those of the
first without their slot. -/
def Retold (slot : Slot) (earlier : List Cue) (c d : Combat σ) : Prop :=
  ∃ shown : List Cue, c.cues.toList = earlier ++ shown ∧
    d = { c with cues := (earlier ++ shown.map (Cue.without slot)).toArray }

theorem retold_refl (slot : Slot) (c : Combat σ) : Retold slot c.cues.toList c c := by
  refine ⟨[], (List.append_nil _).symm, ?_⟩
  simp

namespace Retold

variable {slot : Slot} {earlier : List Cue} {c d : Combat σ}

theorem actor (h : Retold slot earlier c d) : d.actor = c.actor := by
  obtain ⟨shown, -, rfl⟩ := h
  rfl

theorem pool (h : Retold slot earlier c d) : d.pool = c.pool := by
  obtain ⟨shown, -, rfl⟩ := h
  rfl

theorem source (h : Retold slot earlier c d) : d.source = c.source := by
  obtain ⟨shown, -, rfl⟩ := h
  rfl

theorem withSource (h : Retold slot earlier c d) (source : σ) :
    Retold slot earlier { c with source } { d with source } := by
  obtain ⟨shown, hcues, rfl⟩ := h
  exact ⟨shown, hcues, rfl⟩

theorem cue (h : Retold slot earlier c d) (q : Cue) :
    Retold slot earlier (c.cue q) (d.cue (q.without slot)) := by
  obtain ⟨shown, hcues, rfl⟩ := h
  refine ⟨shown ++ [q], ?_, ?_⟩
  · show (c.cues.push q).toList = _
    rw [Array.toList_push, hcues, List.append_assoc]
  · rw [List.map_append, ← List.append_assoc]
    exact congrArg (fun cues => { c with cues : Combat σ }) (List.push_toArray _ _)

theorem onActor (h : Retold slot earlier c d) (f : Fighter → Fighter) :
    Retold slot earlier (c.onActor f) (d.onActor f) := by
  obtain ⟨shown, hcues, rfl⟩ := h
  exact ⟨shown, hcues, rfl⟩

theorem onPlaces (h : Retold slot earlier c d) (places : List Nat) (f : Fighter → Fighter) :
    Retold slot earlier (c.onPlaces places f) (d.onPlaces places f) := by
  obtain ⟨shown, hcues, rfl⟩ := h
  exact ⟨shown, hcues, rfl⟩

theorem draw (h : Retold slot earlier c d) (count : UInt32) :
    Retold slot earlier { c with draws := c.draws.push count }
      { d with draws := d.draws.push count } := by
  obtain ⟨shown, hcues, rfl⟩ := h
  exact ⟨shown, hcues, rfl⟩

theorem seats (h : Retold slot earlier c d) (actor : Fighter) (pool : List Fighter) :
    Retold slot earlier { c with actor, pool } { d with actor, pool } := by
  obtain ⟨shown, hcues, rfl⟩ := h
  exact ⟨shown, hcues, rfl⟩

/-- Blows are answered in both combats or in neither, for their fighters are the same. -/
theorem strike (h : Retold slot earlier c d) (damage : Amount) (i : Nat) :
    Retold slot earlier (c.strike damage i) (d.strike damage i) := by
  unfold Combat.strike
  rw [h.pool, h.actor]
  cases c.pool[i]? with
  | none => exact h
  | some opponent =>
    dsimp only
    split
    · exact (h.seats _ _).cue .spikes
    · exact h.seats _ _

theorem strikes (h : Retold slot earlier c d) (damage : Amount) (places : List Nat) :
    Retold slot earlier (places.foldl (Combat.strike damage) c)
      (places.foldl (Combat.strike damage) d) := by
  induction places generalizing c d with
  | nil => exact h
  | cons i places ih => exact ih (h.strike damage i)

theorem attack (h : Retold slot earlier c d) (amount : Amount) (places : List Nat) :
    Retold slot earlier (c.attack amount (some slot) places) (d.attack amount none places) := by
  have hcue := h.cue (.strike (some slot))
  rw [Cue.without, if_pos rfl] at hcue
  unfold Combat.attack
  rw [h.actor]
  dsimp only
  split
  · exact hcue
  · exact hcue.strikes _ places

/-- A bare list carries out what a card does, unless the card gives its defences away. -/
theorem carryOut (h : Retold slot earlier c d) {a : Action} {aim : Aim}
    (hgain : aim = .opponent → ∀ amount, a ≠ .defend amount) (places : List Nat) :
    Retold slot earlier (c.carryOut a { slot := some slot, aim } places)
      (d.carryOut a {} places) := by
  cases a with
  | attack a => exact h.attack a.amount places
  | defend amount =>
    have haim : aim ≠ .opponent := fun haim => hgain haim amount rfl
    unfold Combat.carryOut
    dsimp only
    rw [if_neg haim]
    exact (h.onActor _).cue .defend
  | heal amount => exact (h.cue .heal).onActor _
  | burn amount => exact (h.onPlaces places _).cue .burn
  | poison amount => exact (h.onPlaces places _).cue .poison
  | spike amount => exact (h.cue .spikes).onActor _
  | draw count => exact (h.cue (.draw count)).draw count
  | cleanse => exact (h.cue .cleanse).onActor _
  | buff stat amount => exact (h.cue (.buff stat)).onActor _

end Retold

end Combat

variable [Chance σ]

theorem Action.reach_bare {a : Action} {aim : Aim}
    (hgain : aim = .opponent → ∀ amount, a ≠ .defend amount) (slot : Option Slot)
    (target : Option Nat) (size : Nat) (source : σ) :
    a.reach {} target size source = a.reach { slot, aim } target size source := by
  cases a with
  | defend amount =>
    have haim : aim ≠ .opponent := fun haim => hgain haim amount rfl
    unfold reach
    dsimp only
    rw [if_neg haim]
    rfl
  | _ => rfl

namespace Combat

variable {slot : Slot} {earlier : List Cue} {c d : Combat σ}

theorem Retold.round (h : Retold slot earlier c d) {a : Action} {aim : Aim}
    (hgain : aim = .opponent → ∀ amount, a ≠ .defend amount) (target : Option Nat) :
    Agree (Retold slot earlier) (c.round { slot := some slot, aim } target a)
      (d.round {} target a) := by
  have hreach : a.reach {} target d.pool.length d.source =
      a.reach { slot := some slot, aim } target c.pool.length c.source := by
    rw [h.pool, h.source, Action.reach_bare hgain]
  unfold Combat.round
  rw [hreach]
  cases a.reach { slot := some slot, aim } target c.pool.length c.source with
  | error fault => exact .error fault
  | ok reached =>
    obtain ⟨places, source⟩ := reached
    exact .ok ((h.withSource source).carryOut hgain places)

/-- A round of a bare list, in which the declared opponent gains the defences. -/
def bestow (target : Option Nat) (a : Action) (c : Combat σ) : Except Fault (Combat σ) :=
  match a, target with
  | .defend _, none => .error .noTarget
  | .defend amount, some i =>
    if i < c.pool.length then
      .ok ({ c with pool := c.pool.modify i (·.gainDefense amount) }.cue .defend)
    else
      .error .noTarget
  | a, target => c.round {} target a

theorem Retold.bestow (h : Retold slot earlier c d) (a : Action) (target : Option Nat) :
    Agree (Retold slot earlier) (c.round { slot := some slot, aim := .opponent } target a)
      (d.bestow target a) := by
  cases a with
  | defend amount =>
    have hlength : d.pool.length = c.pool.length := congrArg List.length h.pool
    unfold Combat.round Action.reach
    dsimp only
    rw [if_pos rfl]
    cases target with
    | none => exact .error .noTarget
    | some i =>
      unfold Targeting.recipients Combat.bestow
      dsimp only
      rw [hlength]
      by_cases hi : i < c.pool.length
      · rw [if_pos hi, if_pos hi]
        refine .ok ?_
        unfold Combat.carryOut
        dsimp only
        rw [if_pos rfl]
        exact (h.onPlaces [i] _).cue .defend
      · rw [if_neg hi, if_neg hi]
        exact .error .noTarget
  | _ => exact h.round (fun _ _ heq => Action.noConfusion heq) target

/-- Carries out a bare list, in which the declared opponent gains the defences. -/
def performBestowing (c : Combat σ) (actions : List Action) (target : Option Nat) :
    Except Fault Nat × Combat σ :=
  let k := course (bestow target) (Sequence.dues actions) c
  (k.report, k.state)

/-- A play goes as the course of its actions in other rounds, if each round of the card goes as the
other of the same action. -/
theorem play_retold {k : Card} {P : Action → Prop} (hP : ∀ a ∈ k.actions, P a)
    {target : Option Nat} {round' : Action → Combat σ → Except Fault (Combat σ)}
    (hround : ∀ a (c d : Combat σ), P a → Retold k.slot earlier c d →
      Agree (Retold k.slot earlier) (c.round { slot := some k.slot, aim := k.aim } target a)
        (round' a d))
    (h : Retold k.slot earlier c d) :
    (c.play k target).1 = (course round' (Sequence.dues k.actions) d).report ∧
      Retold k.slot earlier (c.play k target).2
        (course round' (Sequence.dues k.actions) d).state := by
  have hplay : c.play k target = c.enact (.card k) target := rfl
  rw [hplay, enact_eq_course]
  have hcourse := course_agree (Combat.round { slot := some k.slot, aim := k.aim } target) round'
    (fun _ => Retold k.slot earlier) (fun _ a c d _ ha hr => hround a c d ha hr)
    (fun due hd => hP due.1 (Sequence.mem_dues hd)) (Nat.le_of_eq (Nat.zero_add _)) h
  obtain ⟨hreport, -, -, hstate⟩ := hcourse
  exact ⟨hreport, hstate⟩

end Combat

theorem Card.actions_ofEntry {e : Entry} {actions : List Action}
    (h : Description.parse e.description = .ok actions) : (ofEntry e).actions = actions :=
  (Description.parse_eq_ok_iff.1 h).2

/-- A card whose description can be read is played as the description is carried out: with the same
report, and the same combat but for the slot in the cues of strikes. If the card is aimed at an
opponent and has defences, the description is carried out so that the declared opponent gains
them. -/
theorem play_ofEntry (e : Entry) {actions : List Action}
    (hparse : Description.parse e.description = .ok actions) (c : Combat σ) (target : Option Nat) :
    let played := c.play (.ofEntry e) target
    let bare := c.perform actions target
    let bestowed := c.performBestowing actions target
    c.performText e.description target = bare ∧
      ((e.aim ≠ .opponent ∨ ∀ amount, .defend amount ∉ actions) →
        played.1 = bare.1 ∧ Combat.Retold e.slot c.cues.toList played.2 bare.2) ∧
      (e.aim = .opponent →
        played.1 = bestowed.1 ∧ Combat.Retold e.slot c.cues.toList played.2 bestowed.2) := by
  intro played bare bestowed
  have hactions : (Card.ofEntry e).actions = actions := Card.actions_ofEntry hparse
  have hbare : bare = c.enact (.bare (Card.ofEntry e).actions) target := by rw [hactions]; rfl
  refine ⟨?_, fun hgain => ?_, fun haim => ?_⟩
  · unfold Combat.performText
    rw [hparse]
  · rw [hbare, Combat.enact_eq_course]
    refine Combat.play_retold (P := fun a => e.aim = .opponent → ∀ amount, a ≠ .defend amount) ?_
      (fun a c d ha h => h.round ha target) (Combat.retold_refl e.slot c)
    -- Only a card aimed at an opponent could give a defence away, and then it has none.
    rintro a ha haim amount rfl
    rw [hactions] at ha
    exact (hgain.resolve_left (not_not.2 haim)) amount ha
  · have hround (a : Action) (c' d : Combat σ) (_ : True)
        (h : Combat.Retold e.slot c.cues.toList c' d) :
        Agree (Combat.Retold e.slot c.cues.toList)
          (c'.round { slot := some e.slot, aim := e.aim } target a) (d.bestow target a) := by
      rw [haim]
      exact h.bestow a target
    have hplay := Combat.play_retold (k := .ofEntry e) (fun _ _ => trivial) hround
      (Combat.retold_refl e.slot c)
    rw [hactions] at hplay
    exact hplay

/-- The second opponent, who answers blows, gains the defence of the bulwark. The same card without
an aim would keep it for the actor. -/
theorem play_ofEntry_bulwark :
    let bulwark : Entry := { name := "Bulwark", slot := .offHand, rarity := .common,
                             aim := .opponent,
                             description := "Defend for 3. Attack for 2, to all." }
    let rampart : Entry := { bulwark with name := "Rampart", aim := .nobody }
    let actions : List Action := [.defend 3, .attack { amount := 2, area := true }]
    let c : Combat Script :=
      { actor := .fresh 30, pool := [.fresh 5, { Fighter.fresh 8 with spike := 1 }], source := {} }
    Description.parse bulwark.description = .ok actions ∧
      (c.play (.ofEntry bulwark) (some 1)).1 = .ok 2 ∧
      (c.play (.ofEntry bulwark) (some 1)).2.pool.map (·.life) = [3, 8] ∧
      (c.play (.ofEntry bulwark) (some 1)).2.cues.toList =
        [.defend, .strike (some .offHand), .spikes] ∧
      (c.performBestowing actions (some 1)).1 = .ok 2 ∧
      Combat.Retold .offHand [] (c.play (.ofEntry bulwark) (some 1)).2
        (c.performBestowing actions (some 1)).2 ∧
      Combat.Retold .offHand [] (c.play (.ofEntry rampart) none).2 (c.perform actions none).2 := by
  intro bulwark rampart actions c
  have hparse : Description.parse bulwark.description = .ok actions := by decide +kernel
  obtain ⟨-, -, hbestowed⟩ := play_ofEntry bulwark hparse c (some 1)
  obtain ⟨-, hbare, -⟩ := play_ofEntry rampart hparse c none
  obtain ⟨hreport, hretold⟩ := hbestowed rfl
  have hplay : c.play (.ofEntry bulwark) (some 1) = c.enact (.card (.ofEntry bulwark)) (some 1) :=
    rfl
  have hsteps : (c.play (.ofEntry bulwark) (some 1)).1 = .ok 2 := by
    rw [hplay, Combat.enact_eq_course]
    decide +kernel
  refine ⟨hparse, hsteps, ?_, ?_, hreport.symm.trans hsteps, hretold, ?_⟩
  · rw [hplay, Combat.enact_eq_course]
    decide +kernel
  · rw [hplay, Combat.enact_eq_course]
    decide +kernel
  · exact (hbare (.inl (by decide))).2

end Skirmish
