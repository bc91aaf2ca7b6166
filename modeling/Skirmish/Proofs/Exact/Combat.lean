import Skirmish.Chance.Script
import Skirmish.Proofs.Clause.Limits
import Skirmish.Proofs.Combat.Sound
import Skirmish.Proofs.Exact.Fighter
import Skirmish.Proofs.Plan

/-!
# Exact combats

The rules of combats over all integers. `c.Within n k` bounds a combat as `Fighter.Within` does
everyone in it; the spikes of the pool, which nothing raises, never cost more than a hit. A combat
tracks an exact one while it equals it and is within bounds. One round of an action that a clause
can write moves the bounds on by one step, and by a hit for each place that it may strike, and does
what the exact rules do (`Within.round`). So over as many rounds as the bounds allow the two courses
agree.
-/

namespace Skirmish

variable {σ : Type}

namespace Exact

structure Combat (σ : Type) where
  actor : Fighter
  pool : List Fighter
  source : σ
  cues : Array Cue
  draws : Array UInt32

namespace Combat

def cue (c : Combat σ) (q : Cue) : Combat σ :=
  { c with cues := c.cues.push q }

def onActor (c : Combat σ) (f : Fighter → Fighter) : Combat σ :=
  { c with actor := f c.actor }

def onPlaces (c : Combat σ) (places : List Nat) (f : Fighter → Fighter) : Combat σ :=
  { c with pool := places.foldl (fun pool i => pool.modify i f) c.pool }

def strike (damage : Int) (c : Combat σ) (i : Nat) : Combat σ :=
  match c.pool[i]? with
  | none => c
  | some opponent =>
    let (struck, attacker, reflected) := opponent.clash c.actor damage .attack
    let c := { c with actor := attacker, pool := c.pool.set i struck }
    if reflected.isSome then c.cue .spikes else c

def attack (c : Combat σ) (amount : Int) (slot : Option Slot) (places : List Nat) : Combat σ :=
  let damage := amount + c.actor.buffs .attack
  let c := c.cue (.strike slot)
  if damage < 1 then c else places.foldl (strike damage) c

def carryOut (c : Combat σ) (a : Action) (origin : Origin) (places : List Nat) : Combat σ :=
  match a with
  | .attack a => c.attack a.amount.toInt origin.slot places
  | .defend n =>
    let gain := (Fighter.gainDefense · n.toInt)
    (if origin.aim = .opponent then c.onPlaces places gain else c.onActor gain).cue .defend
  | .heal n => (c.cue .heal).onActor (·.heal n.toInt)
  | .burn n => (c.onPlaces places (·.gainBurn n.toInt)).cue .burn
  | .poison n => (c.onPlaces places (·.gainPoison n.toInt)).cue .poison
  | .spike n => (c.cue .spikes).onActor (·.gainSpike n.toInt)
  | .draw n =>
    let c := c.cue (.draw n)
    { c with draws := c.draws.push n }
  | .cleanse => (c.cue .cleanse).onActor (·.cleanse)
  | .buff s n => (c.cue (.buff s)).onActor (·.buff s n.toInt)

variable [Chance σ]

/-- Whom an action reaches does not depend on amounts. -/
def round (origin : Origin) (target : Option Nat) (a : Action) (c : Combat σ) :
    Except Fault (Combat σ) :=
  (a.reach origin target c.pool.length c.source).map fun (places, source) =>
    { c with source }.carryOut a origin places

/-- Carries out a bare list of actions. -/
def perform (c : Combat σ) (actions : List Action) (target : Option Nat) :
    Except Fault Nat × Combat σ :=
  let k := course (round {} target) (Sequence.dues actions) c
  (k.report, k.state)

end Combat

end Exact

namespace Combat

open Saturating
open Fighter (hitSize)

/-- The combat with all amounts as integers. -/
def exact (c : Combat σ) : Exact.Combat σ where
  actor := c.actor.exact
  pool := c.pool.map Fighter.exact
  source := c.source
  cues := c.cues
  draws := c.draws

theorem exact_cue (c : Combat σ) (q : Cue) : (c.cue q).exact = c.exact.cue q := rfl

structure Within (n k : Nat) (c : Combat σ) : Prop where
  actor : c.actor.Within n k
  pool : ∀ f ∈ c.pool, f.Within n k ∧ f.sting ≤ hitSize
  size : c.pool.length ≤ 2 ^ 10

theorem Within.cue {n k : Nat} {c : Combat σ} (h : c.Within n k) (q : Cue) :
    (c.cue q).Within n k := { h with }

theorem Within.mono {n n' k k' : Nat} (hn : n ≤ n') (hk : k ≤ k') {c : Combat σ}
    (h : c.Within n k) : c.Within n' k' where
  actor := h.actor.mono hn hk
  pool f hf := ⟨(h.pool f hf).1.mono hn hk, (h.pool f hf).2⟩
  size := h.size

/-- The combat has the stats of an exact one, and they are within bounds. -/
structure Tracks (n k : Nat) (c : Combat σ) (d : Exact.Combat σ) : Prop where
  eq : c.exact = d
  within : c.Within n k

theorem Within.tracks {n k : Nat} {c : Combat σ} (h : c.Within n k) : c.Tracks n k c.exact :=
  ⟨rfl, h⟩

theorem Tracks.cue {n k : Nat} {c : Combat σ} {d : Exact.Combat σ} (h : c.Tracks n k d) (q : Cue) :
    (c.cue q).Tracks n k (d.cue q) :=
  ⟨by rw [exact_cue, h.eq], h.within.cue q⟩

theorem Tracks.mono {n n' k k' : Nat} (hn : n ≤ n') (hk : k ≤ k') {c : Combat σ}
    {d : Exact.Combat σ} (h : c.Tracks n k d) : c.Tracks n' k' d :=
  ⟨h.eq, h.within.mono hn hk⟩

/-! ## Strikes -/

theorem Within.strike {n k : Nat} (hn : n ≤ 2 ^ 16) (hk : k < 2 ^ 26) {c : Combat σ}
    (h : c.Within n k) {damage : Amount} (hd : damage.toInt ≤ hitSize) (i : Nat) :
    (c.strike damage i).Tracks n (k + 1) (c.exact.strike damage.toInt i) := by
  have hm := h.mono (Nat.le_refl n) (Nat.le_succ k)
  have hget : c.exact.pool[i]? = c.pool[i]?.map Fighter.exact := List.getElem?_map
  unfold Combat.strike Exact.Combat.strike
  rw [hget]
  cases hi : c.pool[i]? with
  | none => exact ⟨rfl, hm⟩
  | some f =>
    obtain ⟨hf, hsting⟩ := h.pool f (List.mem_of_getElem? hi)
    obtain ⟨hc, hstruck, hattacker⟩ := hf.clash hn hk hsting h.actor hd .attack
    have hc' : f.exact.clash c.exact.actor damage.toInt .attack = _ := hc
    have hsame : (f.clash c.actor damage .attack).struck.sting = f.sting := by
      rw [Fighter.struck_clash]
      exact Fighter.sting_congr (Fighter.spike_wound _ _ _) (Fighter.buffs_wound _ _ _)
    have hwithin : Within n (k + 1) { c with
        actor := (f.clash c.actor damage .attack).attacker
        pool := c.pool.set i (f.clash c.actor damage .attack).struck } := by
      refine ⟨hattacker, fun g hg => ?_, ?_⟩
      · rcases List.mem_or_eq_of_mem_set hg with hg | rfl
        · exact hm.pool g hg
        · exact ⟨hstruck, by rw [hsame]; exact hsting⟩
      · rw [List.length_set]
        exact h.size
    simp only [Option.map_some, hc', Option.isSome_map]
    split
    · refine ⟨?_, hwithin.cue _⟩
      rw [exact_cue]
      simp only [exact, List.map_set]
    · refine ⟨?_, hwithin⟩
      simp only [exact, List.map_set]

theorem Within.strikes {n : Nat} (hn : n ≤ 2 ^ 16) {damage : Amount} (hd : damage.toInt ≤ hitSize)
    (places : List Nat) {k : Nat} (hk : k + places.length ≤ 2 ^ 26) {c : Combat σ}
    (h : c.Within n k) :
    (places.foldl (Combat.strike damage) c).Tracks n (k + places.length)
      (places.foldl (Exact.Combat.strike damage.toInt) c.exact) := by
  induction places generalizing k c with
  | nil => exact ⟨rfl, h⟩
  | cons i places ih =>
    rw [List.length_cons] at hk ⊢
    obtain ⟨he, hw⟩ := h.strike hn (by omega) hd i
    obtain ⟨he', hw'⟩ := ih (by omega) hw
    rw [List.foldl_cons, List.foldl_cons, ← he]
    exact ⟨he', hw'.mono (Nat.le_refl n) (by omega)⟩

theorem Within.attack {n : Nat} (hn : n ≤ 2 ^ 16) {places : List Nat} {k : Nat}
    (hk : k + places.length ≤ 2 ^ 26) {c : Combat σ} (h : c.Within n k) {amount : Amount}
    (ha : 1 ≤ amount.toInt ∧ amount.toInt ≤ 65535) (slot : Option Slot) :
    (c.attack amount slot places).Tracks n (k + places.length)
      (c.exact.attack amount.toInt slot places) := by
  have hbuff : Fighter.Swings n c.actor.buffs.attack := h.actor.buffs .attack
  unfold Fighter.Swings at hbuff
  have hadd : (add amount c.actor.buffs.attack).toInt =
      amount.toInt + c.actor.buffs.attack.toInt := by
    rw [toInt_add, clamp_of_mem] <;> omega
  have hd : (add amount c.actor.buffs.attack).toInt ≤ hitSize := by
    unfold hitSize
    omega
  have hw := h.cue (.strike slot)
  unfold Combat.attack Exact.Combat.attack
  simp only [Int64.lt_iff_toInt_lt, Int64.toInt_one]
  rw [show amount.toInt + c.exact.actor.buffs .attack = _ from hadd.symm, ← exact_cue]
  split
  · exact ⟨rfl, hw.mono (Nat.le_refl n) (Nat.le_add_right _ _)⟩
  · exact hw.strikes hn hd places hk

/-! ## Gains -/

theorem Within.onActor {n n' k k' : Nat} (hn : n ≤ n') (hk : k ≤ k') {c : Combat σ}
    (h : c.Within n k) {f : Fighter → Fighter} {g : Exact.Fighter → Exact.Fighter}
    (hf : (f c.actor).exact = g c.actor.exact ∧ (f c.actor).Within n' k') :
    (c.onActor f).Tracks n' k' (c.exact.onActor g) :=
  ⟨congrArg (fun x => { c.exact with actor := x }) hf.1, { h.mono hn hk with actor := hf.2 }⟩

/-- A change of at most one opponent that leaves spikes alone. -/
theorem Within.onPlaces {n k : Nat} {c : Combat σ} (h : c.Within n k) {places : List Nat}
    (hplaces : places.length ≤ 1) {f : Fighter → Fighter} {g : Exact.Fighter → Exact.Fighter}
    (hf : ∀ x : Fighter, x.Within n k → (f x).exact = g x.exact ∧ (f x).Within (n + 1) k)
    (hsting : ∀ x : Fighter, (f x).sting = x.sting) :
    (c.onPlaces places f).Tracks (n + 1) k (c.exact.onPlaces places g) := by
  have hm := h.mono (Nat.le_succ n) (Nat.le_refl k)
  match places, hplaces with
  | [], _ => exact ⟨rfl, hm⟩
  | [i], _ =>
    refine ⟨?_, ⟨hm.actor, ?_, ?_⟩⟩
    · have hpool : (c.pool.modify i f).map Fighter.exact =
          (c.pool.map Fighter.exact).modify i g := by
        refine List.ext_getElem? fun j => ?_
        rw [List.getElem?_map, List.getElem?_modify, List.getElem?_modify, List.getElem?_map]
        cases hj : c.pool[j]? with
        | none => rfl
        | some x =>
          simp only [Option.map_some]
          split
          · exact congrArg some (hf x (h.pool x (List.mem_of_getElem? hj)).1).1
          · rfl
      exact congrArg (fun x => { c.exact with pool := x }) hpool
    · refine forall_mem_modify (P := fun x : Fighter => x.Within n k ∧ x.sting ≤ hitSize) h.pool
        (fun x hx => ⟨(hf x hx.1).2, ?_⟩)
        (fun x hx => ⟨hx.1.mono (Nat.le_succ n) (Nat.le_refl k), hx.2⟩) i
      rw [hsting]
      exact hx.2
    · show (c.pool.modify i f).length ≤ _
      rw [List.length_modify]
      exact h.size

/-! ## Rounds -/

/-- One step of an action that a clause can write. Only an attack affects more than one place. -/
theorem Within.carryOut {n k : Nat} (hn : n < 2 ^ 16) (hk : k + 2 ^ 10 ≤ 2 ^ 26) {c : Combat σ}
    (h : c.Within n k) {a : Action} (ha : a.Writable) (origin : Origin) {places : List Nat}
    (hplaces : places.length ≤ 2 ^ 10) (hone : (∃ b, a = .attack b) ∨ places.length ≤ 1) :
    (c.carryOut a origin places).Tracks (n + 1) (k + 2 ^ 10)
      (c.exact.carryOut a origin places) := by
  have hn' := Nat.le_succ n
  have hk₁ : k + 1 ≤ k + 2 ^ 10 := by omega
  have hk₀ : k ≤ k + 2 ^ 10 := by omega
  cases a with
  | attack a =>
    have hattack := h.attack (Nat.le_of_lt hn) (by omega : k + places.length ≤ 2 ^ 26)
      ⟨ha.1, ha.2.1⟩ origin.slot
    exact hattack.mono hn' (by omega)
  | defend m =>
    unfold Combat.carryOut Exact.Combat.carryOut
    simp only
    split
    · have hpool := h.onPlaces (by simpa using hone) (g := (·.gainDefense m.toInt))
        (fun x hx => hx.gainDefense hn ha) (fun x => x.sting_gainDefense m)
      exact (hpool.cue _).mono (Nat.le_refl _) hk₀
    · have hactor := h.onActor hn' (Nat.le_refl k) (f := (·.gainDefense m))
        (g := (·.gainDefense m.toInt)) (h.actor.gainDefense hn ha)
      exact (hactor.cue _).mono (Nat.le_refl _) hk₀
  | heal m =>
    have hactor := (h.cue .heal).onActor (Nat.le_refl n) (Nat.le_succ k) (f := (·.heal m))
      (g := (·.heal m.toInt)) (h.actor.heal (Nat.le_of_lt hn) (by omega) ha)
    exact hactor.mono hn' hk₁
  | burn m =>
    have hpool := h.onPlaces (by simpa using hone) (g := (·.gainBurn m.toInt))
      (fun x hx => hx.gainBurn hn ha) (fun x => x.sting_gainBurn m)
    exact (hpool.cue .burn).mono (Nat.le_refl _) hk₀
  | poison m =>
    have hpool := h.onPlaces (by simpa using hone) (g := (·.gainPoison m.toInt))
      (fun x hx => hx.gainPoison hn ha) (fun x => x.sting_gainPoison m)
    exact (hpool.cue .poison).mono (Nat.le_refl _) hk₀
  | spike m =>
    have hactor := (h.cue .spikes).onActor hn' (Nat.le_refl k) (f := (·.gainSpike m))
      (g := (·.gainSpike m.toInt)) (h.actor.gainSpike hn ha)
    exact hactor.mono (Nat.le_refl _) hk₀
  | draw m => exact ⟨rfl, { h.mono hn' hk₀ with }⟩
  | cleanse =>
    have hactor := (h.cue .cleanse).onActor (Nat.le_refl n) (Nat.le_refl k) (f := (·.cleanse))
      (g := (·.cleanse)) h.actor.cleanse
    exact hactor.mono hn' hk₀
  | buff s m =>
    have hactor := (h.cue (.buff s)).onActor hn' (Nat.le_refl k) (f := (·.buff s m))
      (g := (·.buff s m.toInt)) (h.actor.buff hn s ha)
    exact hactor.mono (Nat.le_refl _) hk₀

end Combat

section
variable [Chance σ]

/-- An attack strikes everyone once, or one place. -/
theorem Targeting.length_recipients {t : Targeting} {size : Nat} {declared : Option Nat}
    {source source' : σ} {places : List Nat}
    (h : t.recipients size declared source = .ok (places, source')) :
    places.length ≤ max 1 size ∧ (t = .everyone ∨ places.length ≤ 1) := by
  rcases cases_recipients h with ⟨ht, -, rfl, -⟩ | ⟨-, -, rfl, -⟩ | ⟨-, i, -, -, rfl, -⟩
  · rw [List.length_range]
    exact ⟨Nat.le_max_right 1 size, .inl ht⟩
  · exact ⟨Nat.le_max_left 1 size, .inr (Nat.le_refl 1)⟩
  · exact ⟨Nat.le_max_left 1 size, .inr (Nat.le_refl 1)⟩

/-- Only an attack affects more than one place. -/
theorem Action.length_reach {a : Action} {origin : Origin} {target : Option Nat} {size : Nat}
    {source source' : σ} {places : List Nat}
    (h : a.reach origin target size source = .ok (places, source')) :
    places.length ≤ max 1 size ∧ ((∃ b, a = .attack b) ∨ places.length ≤ 1) := by
  have hdeclared (h : Targeting.declared.recipients size target source = .ok (places, source')) :
      places.length ≤ 1 :=
    (Targeting.length_recipients h).2.resolve_left fun h => by cases h
  have hnobody (h : (.ok ([], source) : Except Fault (List Nat × σ)) = .ok (places, source')) :
      places.length ≤ 1 := by
    obtain ⟨rfl, -⟩ := Prod.mk.inj (Except.ok.inj h)
    exact Nat.zero_le 1
  have hone (h : places.length ≤ 1) :
      places.length ≤ max 1 size ∧ ((∃ b, a = .attack b) ∨ places.length ≤ 1) :=
    ⟨Nat.le_trans h (Nat.le_max_left 1 size), .inr h⟩
  cases a with
  | attack b => exact ⟨(Targeting.length_recipients h).1, .inl ⟨b, rfl⟩⟩
  | defend n =>
    unfold reach at h
    simp only at h
    split at h
    · exact hone (hdeclared h)
    · exact hone (hnobody h)
  | burn n | poison n => exact hone (hdeclared h)
  | _ => exact hone (hnobody h)

namespace Combat

/-- A round keeps to the exact rules: it fails where they fail, and ends as they do. -/
theorem Within.round {n : Nat} (hn : n < 2 ^ 16) {c : Combat σ} (h : c.Within n (n * 2 ^ 10))
    {a : Action} (ha : a.Writable) (origin : Origin) (target : Option Nat) :
    Agree (Tracks (n + 1) ((n + 1) * 2 ^ 10)) (c.round origin target a)
      (c.exact.round origin target a) := by
  have hsize : c.exact.pool.length = c.pool.length := List.length_map ..
  unfold Combat.round Exact.Combat.round
  rw [hsize, show c.exact.source = c.source from rfl]
  cases hr : a.reach origin target c.pool.length c.source with
  | error fault => exact .error fault
  | ok r =>
    obtain ⟨places, source⟩ := r
    obtain ⟨hle, hone⟩ := Action.length_reach hr
    have hs : ({ c with source } : Combat σ).Within n (n * 2 ^ 10) := { h with }
    have hplaces : places.length ≤ 2 ^ 10 := Nat.le_trans hle (Nat.max_le.2 ⟨by decide, h.size⟩)
    refine .ok ?_
    rw [Nat.succ_mul]
    exact hs.carryOut hn (by omega) ha origin hplaces hone

end Combat

/-! ## Descriptions -/

/-- No stat is further than `2 ^ 31` from zero, no counter below it and no life above its
ceiling. -/
structure Fighter.Moderate (f : Fighter) : Prop where
  maxLife : f.maxLife.toInt.natAbs ≤ 2 ^ 31
  life : f.life.toInt.natAbs ≤ 2 ^ 31
  life_le : f.life ≤ f.maxLife
  defense : 0 ≤ f.defense.toInt ∧ f.defense.toInt ≤ 2 ^ 31
  burn : 0 ≤ f.burn.toInt ∧ f.burn.toInt ≤ 2 ^ 31
  poison : 0 ≤ f.poison.toInt ∧ f.poison.toInt ≤ 2 ^ 31
  spike : 0 ≤ f.spike.toInt ∧ f.spike.toInt ≤ 2 ^ 31
  buffs (s : Stat) : (f.buffs.get s).toInt.natAbs ≤ 2 ^ 31

theorem Fighter.Moderate.within {f : Fighter} (h : f.Moderate) : f.Within 0 0 := by
  have hmax := h.maxLife
  have hlife := h.life
  have hcount : ∀ a : Amount, 0 ≤ a.toInt ∧ a.toInt ≤ 2 ^ 31 → Counts 0 a := by
    intro a ha
    unfold Counts
    omega
  refine ⟨by omega, Int64.le_iff_toInt_le.1 h.life_le, by omega, hcount _ h.defense,
    hcount _ h.burn, hcount _ h.poison, hcount _ h.spike, fun s => ?_⟩
  have hbuff := h.buffs s
  unfold Swings
  omega

theorem Fighter.Moderate.sting_le {f : Fighter} (h : f.Moderate) : f.sting ≤ hitSize := by
  have hspike := h.spike
  have hbuff : f.buffs.spike.toInt.natAbs ≤ 2 ^ 31 := h.buffs .spike
  unfold Fighter.sting hitSize
  simp only
  rw [Saturating.clamp_of_mem (by omega) (by omega)]
  split <;> omega

/-- Carrying out a description of at most `2 ^ 16` steps among fighters of moderate stats, at most
`2 ^ 10` of them in the pool, never meets the end of the range of amounts: its report, its cues,
its draws, the source it leaves and everyone's stats are those of the exact rules. -/
theorem perform_exact {text : String} {actions : List Action}
    (htext : Description.parse text = .ok actions)
    (hsteps : (actions.map fun a => a.times.toNat).sum ≤ 2 ^ 16) {c : Combat σ}
    (hactor : c.actor.Moderate) (hpool : ∀ f ∈ c.pool, f.Moderate)
    (hsize : c.pool.length ≤ 2 ^ 10) (target : Option Nat) :
    (c.perform actions target).1 = (c.exact.perform actions target).1 ∧
      (c.perform actions target).2.exact = (c.exact.perform actions target).2 := by
  have hwritable := Description.writable_of_parse htext
  have hlength : 0 + (Sequence.dues actions).length ≤ 2 ^ 16 := by
    rw [Sequence.length_dues, Nat.zero_add]
    refine Nat.le_trans (Nat.le_of_eq (congrArg List.sum ?_)) hsteps
    refine List.map_congr_left fun a ha => Nat.max_eq_right ?_
    exact Action.Writable.times_pos (hwritable a ha)
  have hwithin : c.Within 0 (0 * 2 ^ 10) :=
    ⟨hactor.within, fun f hf => ⟨(hpool f hf).within, (hpool f hf).sting_le⟩, hsize⟩
  have hround : ∀ n a (c : Combat σ) d, n < 2 ^ 16 → a.Writable → c.Tracks n (n * 2 ^ 10) d →
      Agree (Combat.Tracks (n + 1) ((n + 1) * 2 ^ 10)) (c.round {} target a)
        (d.round {} target a) := by
    rintro n a c d hn ha ⟨rfl, hc⟩
    exact hc.round hn ha {} target
  obtain ⟨hreport, m, -, hstate⟩ := course_agree _ _
    (fun n (c : Combat σ) d => c.Tracks n (n * 2 ^ 10) d) hround
    (fun due hd => hwritable due.1 (Sequence.mem_dues hd)) hlength hwithin.tracks
  rw [show c.perform actions target = c.enact (.bare actions) target from rfl,
    Combat.enact_eq_course]
  exact ⟨hreport, hstate.eq⟩

end

/-- A buff, and two strikes at everyone; one of two opponents has spikes. -/
theorem perform_exact_strikes_all :
    let actions : List Action :=
      [.buff .attack (-1), .attack { amount := 4, area := true, times := 2 }]
    let hedgehog : Fighter :=
      { maxLife := 10, life := 10, defense := 3, spike := 2, buffs := { spike := 1 } }
    let c : Combat Script :=
      { actor := .fresh 30, pool := [hedgehog, .fresh 5], source := {} }
    Description.parse "Buff Attack by -1. Attack for 4, to all, 2 times." = .ok actions ∧
      (actions.map fun a => a.times.toNat).sum ≤ 2 ^ 16 ∧ c.actor.Moderate ∧
      (∀ f ∈ c.pool, f.Moderate) ∧ c.pool.length ≤ 2 ^ 10 ∧
      (c.perform actions none).1 = (c.exact.perform actions none).1 ∧
      (c.perform actions none).2.exact = (c.exact.perform actions none).2 := by
  intro actions hedgehog c
  have htext : Description.parse "Buff Attack by -1. Attack for 4, to all, 2 times." =
      .ok actions := by decide +kernel
  have hsteps : (actions.map fun a => a.times.toNat).sum ≤ 2 ^ 16 := by decide
  have hfresh : ∀ life : Amount, life = 30 ∨ life = 5 → (Fighter.fresh life).Moderate := by
    rintro life (rfl | rfl) <;>
      exact ⟨by decide, by decide, by decide, by decide, by decide, by decide, by decide,
        fun s => by cases s <;> decide⟩
  have hhedgehog : hedgehog.Moderate :=
    ⟨by decide, by decide, by decide, by decide, by decide, by decide, by decide,
      fun s => by cases s <;> decide⟩
  have hpool : ∀ f ∈ c.pool, f.Moderate :=
    List.forall_mem_cons.2 ⟨hhedgehog, List.forall_mem_singleton.2 (hfresh 5 (.inr rfl))⟩
  have hsize : c.pool.length ≤ 2 ^ 10 := by decide
  exact ⟨htext, hsteps, hfresh 30 (.inl rfl), hpool, hsize,
    perform_exact htext hsteps (hfresh 30 (.inl rfl)) hpool hsize none⟩

end Skirmish
