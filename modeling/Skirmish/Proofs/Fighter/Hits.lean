import Skirmish.Proofs.Fighter.Losses

/-!
# Hits

A hit has an attacker behind it or nobody (`hit`). Whatever its type, its damage is shared out
between defense and life, and no part of it gets lost or counts twice (`Pays`). What the spikes of
the struck send back is a hit on the attacker, paid for by the same rule; it is of a type that
provokes no spikes, so there it ends, even if both sides have some.
-/

namespace Skirmish

/-- What there is after a hit: the struck, the attacker if somebody was behind it, and what the hit
did. -/
structure Hit where
  struck : Fighter
  attacker : Option Fighter
  impact : Impact
  deriving DecidableEq, Repr

theorem DamageType.blockable_iff (type : DamageType) : type.blockable ↔ type ≠ .poison := by
  cases type <;> decide

theorem DamageType.provokes_iff (type : DamageType) :
    type.provokes ↔ type = .attack ∨ type = .spell := by
  cases type <;> decide

namespace Fighter

open Saturating

/-- A hit, by an attacker or by nobody. -/
def hit (f : Fighter) (attacker : Option Fighter) (amount : Amount) (type : DamageType) : Hit :=
  match attacker with
  | none =>
    let (struck, impact) := f.wound amount type
    { struck, attacker := none, impact }
  | some attacker =>
    let clash := f.clash attacker amount type
    { struck := clash.struck, attacker := some clash.attacker, impact := clash.impact }

/-- A hit that makes `g` of `f` is paid for in full: defense soaks up what it can, unless the hit
is poison, life bears the rest, and nothing else changes. -/
structure Pays (f : Fighter) (amount : Amount) (type : DamageType) (g : Fighter) (i : Impact) :
    Prop where
  absorbed : i.absorbed.toInt = if type = .poison then 0 else min amount.toInt f.defense.toInt
  whole : i.absorbed.toInt + i.lifeLost.toInt = amount.toInt
  defense : g.defense.toInt = f.defense.toInt - i.absorbed.toInt
  life : g.life.toInt = max (-2 ^ 63) (f.life.toInt - i.lifeLost.toInt)
  frame : g = { f with defense := g.defense, life := g.life }

variable {f : Fighter} {attacker : Option Fighter} {amount : Amount}

theorem pays_wound (hf : 0 ≤ f.defense) (ha : 0 < amount) (type : DamageType) :
    f.Pays amount type (f.wound amount type).1 (f.wound amount type).2 := by
  have hsoaked : 0 ≤ f.soaked amount type := soaked_nonneg hf ha type
  have habsorbed : (f.wound amount type).2.absorbed = f.soaked amount type := by
    rw [wound_of_pos f ha]
  have hlost : (f.wound amount type).2.lifeLost.toInt =
      amount.toInt - (f.soaked amount type).toInt := by
    rw [wound_of_pos f ha]
    exact toInt_sub_of_nonneg (Int64.le_of_lt ha) hsoaked
  refine ⟨?_, ?_, ?_, ?_, wound_frame f amount type⟩
  · rw [habsorbed, toInt_soaked]
    by_cases htype : type = .poison
    · rw [if_pos htype, if_neg fun h => type.blockable_iff.1 h htype]
    · rw [if_neg htype, if_pos (type.blockable_iff.2 htype)]
  · rw [habsorbed, hlost]
    omega
  · rw [habsorbed, toInt_soaked]
    exact toInt_defense_wound hf ha type
  · rw [hlost, toInt_soaked]
    exact toInt_life_wound hf ha type

/-! ## Answers -/

theorem thorns_eq_some_iff {sting : Amount} :
    f.thorns = some sting ↔ 0 < f.spike ∧ 0 < sting ∧
      sting.toInt = clamp (f.spike.toInt + f.buffs.spike.toInt) := by
  unfold thorns
  rw [← toInt_add, Int64.toInt_inj]
  dsimp only
  split
  · rename_i h
    rw [Option.some.injEq]
    constructor
    · rintro rfl
      exact ⟨h.1, h.2, rfl⟩
    · exact fun h' => h'.2.2.symm
  · rename_i h
    refine ⟨nofun, ?_⟩
    rintro ⟨hspike, hsting, rfl⟩
    exact absurd ⟨hspike, hsting⟩ h

/-- What the spikes of the struck send back to the attacker. -/
def answer (f : Fighter) (attacker : Option Fighter) (amount : Amount) (type : DamageType) :
    Option Amount :=
  if 0 < amount ∧ type.provokes ∧ attacker.isSome then f.thorns else none

theorem answer_none (f : Fighter) (amount : Amount) (type : DamageType) :
    f.answer none amount type = none :=
  if_neg fun h => Bool.noConfusion h.2.2

theorem answer_some (f a : Fighter) (amount : Amount) (type : DamageType) :
    f.answer (some a) amount type = if 0 < amount ∧ type.provokes then f.thorns else none := by
  simp [answer]

theorem answer_eq_some_iff {type : DamageType} {sting : Amount} :
    f.answer attacker amount type = some sting ↔
      0 < amount ∧ (type = .attack ∨ type = .spell) ∧ attacker.isSome ∧ 0 < f.spike ∧ 0 < sting ∧
        sting.toInt = clamp (f.spike.toInt + f.buffs.spike.toInt) := by
  rw [answer, Option.ite_none_right_eq_some, thorns_eq_some_iff, type.provokes_iff]
  tauto

/-- A hit is a wound to the struck, and a wound of the answer to the attacker if there is one. -/
theorem hit_eq (f : Fighter) (attacker : Option Fighter) (amount : Amount) (type : DamageType) :
    f.hit attacker amount type =
      { struck := (f.wound amount type).1
        attacker :=
          match f.answer attacker amount type with
          | none => attacker
          | some sting => attacker.map fun a => (a.wound sting .spike).1
        impact :=
          { (f.wound amount type).2 with reflected := f.answer attacker amount type } } := by
  have hwound : ({ (f.wound amount type).2 with reflected := none } : Impact) =
      (f.wound amount type).2 := by
    unfold wound
    split <;> rfl
  cases attacker with
  | none =>
    rw [answer_none]
    dsimp only at hwound ⊢
    rw [hwound]
    rfl
  | some a =>
    rw [answer_some]
    unfold hit clash
    dsimp only at hwound ⊢
    generalize (if 0 < amount ∧ type.provokes then f.thorns else none) = answer
    cases answer with
    | none =>
      dsimp only
      rw [hwound]
    | some sting => rfl

/-- Damage is neither lost nor dealt twice, and is answered at most once. A hit of less than one
leaves no mark on anybody. Any other is paid for in full by the struck, whose spikes answer an
attack or a spell if their sting is positive; the attacker then pays for the sting in full, and is
not touched otherwise. -/
theorem hit_paid_in_full (hf : 0 ≤ f.defense) (hattacker : ∀ a ∈ attacker, 0 ≤ a.defense)
    (amount : Amount) (type : DamageType) :
    let hit := f.hit attacker amount type
    (amount ≤ 0 → hit = { struck := f, attacker, impact := {} } ∧ hit.impact.harmless) ∧
      (0 < amount → f.Pays amount type hit.struck hit.impact) ∧
      (∀ sting, hit.impact.reflected = some sting ↔
        0 < amount ∧ (type = .attack ∨ type = .spell) ∧ attacker.isSome ∧ 0 < f.spike ∧
          0 < sting ∧ sting.toInt = clamp (f.spike.toInt + f.buffs.spike.toInt)) ∧
      (hit.impact.reflected = none → hit.attacker = attacker) ∧
      ∀ sting, hit.impact.reflected = some sting →
        Option.Rel (fun a b => ∃ i, a.Pays sting .spike b i) attacker hit.attacker := by
  intro hit
  have hhit : hit = _ := f.hit_eq attacker amount type
  rw [hhit]
  dsimp only
  refine ⟨fun hnonpos => ?_, fun hpos => ?_, fun sting => answer_eq_some_iff, fun hnone => ?_,
    fun sting hsting => ?_⟩
  · have hanswer : f.answer attacker amount type = none :=
      if_neg fun h => not_pos_iff.2 hnonpos h.1
    rw [wound_of_nonpos f hnonpos, hanswer]
    exact ⟨rfl, rfl⟩
  · exact { pays_wound hf hpos type with }
  · rw [hnone]
  · rw [hsting]
    have hpos : 0 < sting := (answer_eq_some_iff.1 hsting).2.2.2.2.1
    cases attacker with
    | none => exact .none
    | some a => exact .some ⟨_, pays_wound (hattacker a rfl) hpos .spike⟩

/-- Both sides have spikes, the sting saturates, and neither life can fall any further. -/
theorem hit_paid_in_full_thorny :
    let f : Fighter := { maxLife := 10, life := Int64.minValue + 3, defense := 2,
                         spike := Int64.maxValue, buffs := { spike := 1 } }
    let a : Fighter := { maxLife := 9, life := -9, defense := 4, spike := 6 }
    let hit := f.hit (some a) 7 .spell
    0 ≤ f.defense ∧ 0 ≤ a.defense ∧ hit.impact = ⟨2, 5, some Int64.maxValue⟩ ∧
      f.Pays 7 .spell hit.struck hit.impact ∧
      hit.attacker = some { a with defense := 0, life := Int64.minValue } ∧
      ∃ i, a.Pays Int64.maxValue .spike { a with defense := 0, life := Int64.minValue } i := by
  intro f a hit
  have hf : 0 ≤ f.defense := by decide
  have ha : 0 ≤ a.defense := by decide
  have himpact : hit.impact = ⟨2, 5, some Int64.maxValue⟩ := by decide
  have hattacker : hit.attacker = some { a with defense := 0, life := Int64.minValue } := by decide
  obtain ⟨-, hpays, -, -, hsting⟩ :=
    @hit_paid_in_full f (some a) hf (fun b hb => Option.some.inj hb ▸ ha) 7 .spell
  have hrel := hsting Int64.maxValue (congrArg Impact.reflected himpact)
  rw [hattacker] at hrel
  refine ⟨hf, ha, himpact, hpays (by decide), hattacker, ?_⟩
  cases hrel with
  | some hb => exact hb

end Fighter

end Skirmish
