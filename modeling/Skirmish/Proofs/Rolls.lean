import Skirmish.Settings
import Mathlib

/-!
# Rolls

A roll selects the first place among the weights whose running total it does not exceed, or the
last place if it exceeds them all (`Selects`), and the rarity at this place is the rarity of the
roll. Running totals may fall, and need not even be numbers. All the same a greater roll never
selects an earlier place, for a total that bounds it bounds the smaller roll, too.

That takes the transitivity of the order of floating-point numbers (`float_le_trans`). The order is
read off `rank`, where a number stands on a line: `a ≤ b` says that both stand somewhere, and `a`
not behind `b`.
-/

namespace Skirmish

/-! ## The order of floating-point numbers -/

open Float.Model (UnpackedFloat)

/-- Where a number stands: by its kind from negative infinity to positive infinity, within a kind
by its exponent, then by its mantissa. What is not a number stands nowhere. -/
def rank : UnpackedFloat → Option (Int ×ₗ Int ×ₗ Int)
  | .notANumber => none
  | .infinity .negative => some (toLex (-2, toLex (0, 0)))
  | .finite .negative mantissa exponent _ => some (toLex (-1, toLex (-exponent, -mantissa)))
  | .zero _ => some (toLex (0, toLex (0, 0)))
  | .finite .positive mantissa exponent _ => some (toLex (1, toLex (exponent, mantissa)))
  | .infinity .positive => some (toLex (2, toLex (0, 0)))

/-- Exponents decide before mantissas. -/
theorem isLE_compare_then (e e' : Int) (m m' : Nat) :
    ((compare e e').then (compare m m')).isLE ↔ e < e' ∨ e = e' ∧ m ≤ m' := by
  rw [Ordering.isLE_then_iff_or, Int.compare_eq_lt, Int.compare_eq_eq, Nat.isLE_compare]

theorem le_iff_rank (a b : UnpackedFloat) :
    a.le b ↔ ∃ x ∈ rank a, ∃ y ∈ rank b, x ≤ y := by
  rcases a with (_ | _) | _ | _ | ⟨_ | _, m, e, _⟩ <;>
    rcases b with (_ | _) | _ | _ | ⟨_ | _, m', e', _⟩ <;>
    simp [UnpackedFloat.le, UnpackedFloat.compare, rank, Prod.Lex.toLex_le_toLex]
  -- The kinds decide, unless both are infinite, or finite and of one sign.
  case infinity.negative.infinity.negative => decide
  case infinity.negative.infinity.positive => decide
  case infinity.positive.infinity.negative => decide
  case infinity.positive.infinity.positive => decide
  case finite.negative.finite.negative =>
    rw [← Ordering.isLE_swap, Ordering.swap_then, Int.compare_swap, Nat.compare_swap,
      isLE_compare_then, @eq_comm _ e e']
  case finite.positive.finite.positive => exact isLE_compare_then e e' m m'

theorem float_le_trans {a b c : Float} (hab : a ≤ b) (hbc : b ≤ c) : a ≤ c := by
  obtain ⟨x, hx, y, hy, hxy⟩ := (le_iff_rank _ _).1 (of_decide_eq_true hab)
  obtain ⟨y', hy', z, hz, hyz⟩ := (le_iff_rank _ _).1 (of_decide_eq_true hbc)
  obtain rfl : y = y' := Option.some.inj (hy.symm.trans hy')
  exact decide_eq_true ((le_iff_rank _ _).2 ⟨x, hx, z, hz, hxy.trans hyz⟩)

namespace Settings

variable {s : Settings} {lower roll : Float} {i j : Nat}

/-! ## Running totals -/

/-- The weights up to a place, added up in their order. -/
def runningTotal (s : Settings) (i : Nat) : Float :=
  (s.weights.take (i + 1)).foldl (fun total entry => total + entry.2.toFloat) 0

theorem length_totals (first : Float) (weights : List (Rarity × Float32)) :
    (totals first weights).length = weights.length := by
  induction weights generalizing first with
  | nil => rfl
  | cons entry weights ih => simp [totals, ih]

theorem getElem_totals (first : Float) (weights : List (Rarity × Float32)) (i : Nat)
    (h : i < (totals first weights).length) (h' : i < weights.length) :
    (totals first weights)[i] = (weights[i].1,
      (weights.take (i + 1)).foldl (fun total entry => total + entry.2.toFloat) first) := by
  induction weights generalizing first i with
  | nil => cases h'
  | cons entry weights ih =>
    cases i with
    | zero => simp [totals]
    | succ i => exact ih _ i _ (Nat.lt_of_succ_lt_succ h')

/-! ## The place of a roll -/

/-- The roll selects a place: the first whose running total is at least the roll, or the last place
if none is. -/
inductive Selects (s : Settings) (roll : Float) (i : Nat) : Prop where
  | within (bound : i < s.weights.length) (reached : roll ≤ s.runningTotal i)
      (first : ∀ j < i, ¬roll ≤ s.runningTotal j)
  | past (last : i + 1 = s.weights.length)
      (missed : ∀ j < s.weights.length, ¬roll ≤ s.runningTotal j)

theorem Selects.lt (h : s.Selects roll i) : i < s.weights.length := by
  cases h with
  | within bound _ _ => exact bound
  | past last _ => omega

/-- Every total that is at least one roll is at least the other, so the other selects no later
place. -/
theorem Selects.le (hlower : ∀ total, roll ≤ total → lower ≤ total)
    (hi : s.Selects lower i) (hj : s.Selects roll j) : i ≤ j := by
  cases hi with
  | within bound reached first =>
    cases hj with
    | within _ reached' _ =>
      by_contra hlt
      exact first j (Nat.lt_of_not_le hlt) (hlower _ reached')
    | past last _ => omega
  | past last missed =>
    cases hj with
    | within bound reached _ => exact absurd (hlower _ reached) (missed j bound)
    | past last' _ => omega

theorem Selects.unique (hi : s.Selects roll i) (hj : s.Selects roll j) : i = j :=
  Nat.le_antisymm (hi.le (fun _ h => h) hj) (hj.le (fun _ h => h) hi)

/-- A roll selects a place, and takes its rarity. -/
theorem exists_selects (h : s.weights ≠ []) (roll : Float) :
    ∃ i, s.Selects roll i ∧ s.weights[i]?.map (·.1) = some (s.rarityFor roll) := by
  have hpos := List.length_pos_iff.2 h
  have htotals : ∀ j (hj : j < (totals 0 s.weights).length) (hj' : j < s.weights.length),
      (totals 0 s.weights)[j] = (s.weights[j].1, s.runningTotal j) := getElem_totals 0 s.weights
  unfold rarityFor
  cases hfind : (totals 0 s.weights).find? (roll ≤ ·.2) with
  | some entry =>
    obtain ⟨hreached, i, hi, rfl, hfirst⟩ := List.find?_eq_some_iff_getElem.1 hfind
    have hi' : i < s.weights.length := length_totals 0 s.weights ▸ hi
    rw [htotals i hi hi'] at hreached
    refine ⟨i, .within hi' (of_decide_eq_true hreached) fun j hj => ?_, ?_⟩
    · have hmissed := hfirst j hj
      rw [htotals j (hj.trans hi) (hj.trans hi')] at hmissed
      simpa using hmissed
    · rw [htotals i hi hi', List.getElem?_eq_getElem hi']
      rfl
  | none =>
    refine ⟨s.weights.length - 1, .past (Nat.sub_add_cancel hpos) fun j hj => ?_, ?_⟩
    · have hj' : j < (totals 0 s.weights).length := (length_totals 0 s.weights).symm ▸ hj
      have hmissed := List.find?_eq_none.1 hfind _ (List.getElem_mem hj')
      rw [htotals j hj' hj] at hmissed
      simpa using hmissed
    · rw [List.getLast?_eq_getElem?, List.getElem?_eq_getElem (Nat.sub_one_lt_of_lt hpos)]
      rfl

theorem rarityFor_of_empty (h : s.weights = []) (roll : Float) : s.rarityFor roll = .common := by
  unfold rarityFor
  rw [h]
  rfl

/-- With weights, a roll takes a rarity that has one. -/
theorem hasWeight_rarityFor (h : s.weights ≠ []) (roll : Float) :
    s.hasWeight (s.rarityFor roll) := by
  obtain ⟨i, -, hrarity⟩ := exists_selects h roll
  obtain ⟨entry, hentry, hname⟩ := Option.map_eq_some_iff.1 hrarity
  exact List.any_eq_true.2 ⟨entry, List.mem_of_getElem? hentry, decide_eq_true hname⟩

/-- A roll selects one place and takes its rarity, or common if there are no weights. A greater
roll selects no earlier place, whatever the weights are. -/
theorem rarityFor_in_order (s : Settings) (roll : Float) :
    (s.weights = [] → s.rarityFor roll = .common) ∧
      (s.weights ≠ [] → ∃! i, s.Selects roll i) ∧
      (∀ i, s.Selects roll i → s.weights[i]?.map (·.1) = some (s.rarityFor roll)) ∧
      ∀ lower i j, lower ≤ roll → s.Selects lower i → s.Selects roll j → i ≤ j := by
  refine ⟨fun h => rarityFor_of_empty h roll, fun h => ?_, fun i hi => ?_, ?_⟩
  · obtain ⟨i, hi, -⟩ := exists_selects h roll
    exact ⟨i, hi, fun j hj => hj.unique hi⟩
  · have h : s.weights ≠ [] := List.ne_nil_of_length_pos (Nat.zero_lt_of_lt hi.lt)
    obtain ⟨j, hj, hrarity⟩ := exists_selects h roll
    rwa [hi.unique hj]
  · intro lower i j hlower hi hj
    exact hi.le (fun total htotal => float_le_trans hlower htotal) hj

/-- The totals fall, and the last is not a number. -/
theorem rarityFor_in_order_falling :
    let s : Settings := { weights := [(.common, 2), (.rare, -4), (.common, 0 / 0)] }
    (0.25 : Float) ≤ 0.5 ∧ s.weights ≠ [] ∧
      ∃ i j, s.Selects 0.25 i ∧ s.Selects 0.5 j ∧ i ≤ j ∧
        s.weights[i]?.map (·.1) = some (s.rarityFor 0.25) ∧
        s.weights[j]?.map (·.1) = some (s.rarityFor 0.5) := by
  intro s
  have hroll : (0.25 : Float) ≤ 0.5 := by decide
  have hweights : s.weights ≠ [] := List.cons_ne_nil _ _
  obtain ⟨-, hlower, hlowerRarity, -⟩ := rarityFor_in_order s 0.25
  obtain ⟨-, hgreater, hgreaterRarity, horder⟩ := rarityFor_in_order s 0.5
  obtain ⟨i, hi, -⟩ := hlower hweights
  obtain ⟨j, hj, -⟩ := hgreater hweights
  exact ⟨hroll, hweights, i, j, hi, hj, horder _ i j hroll hi hj, hlowerRarity i hi,
    hgreaterRarity j hj⟩

end Settings

end Skirmish
