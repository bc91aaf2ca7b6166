import Skirmish.Saturating
import Mathlib

/-!
# Amounts as integers

`toInt` reads an amount as an integer between `-2 ^ 63` and `2 ^ 63 - 1`. `Fits x` says that `x`
is in that range. A plain difference is exact where it fits (`toInt_sub_of_fits`) and wraps around
elsewhere; `sub?` takes it only where it fits.
-/

namespace Skirmish.Saturating

/-- The integer is an amount. -/
def Fits (x : Int) : Prop := -2 ^ 63 ≤ x ∧ x ≤ 2 ^ 63 - 1

instance (x : Int) : Decidable (Fits x) := inferInstanceAs (Decidable (_ ∧ _))

theorem fits_toInt (a : Amount) : Fits a.toInt :=
  ⟨a.le_toInt, Int.le_sub_one_of_lt a.toInt_lt⟩

/-! ## Order -/

theorem nonneg_iff {a : Amount} : 0 ≤ a ↔ 0 ≤ a.toInt := by
  rw [Int64.le_iff_toInt_le, Int64.toInt_zero]

theorem pos_iff {a : Amount} : 0 < a ↔ 0 < a.toInt := by
  rw [Int64.lt_iff_toInt_lt, Int64.toInt_zero]

theorem nonpos_iff {a : Amount} : a ≤ 0 ↔ a.toInt ≤ 0 := by
  rw [Int64.le_iff_toInt_le, Int64.toInt_zero]

theorem neg_iff {a : Amount} : a < 0 ↔ a.toInt < 0 := by
  rw [Int64.lt_iff_toInt_lt, Int64.toInt_zero]

theorem not_pos_iff {a : Amount} : ¬ 0 < a ↔ a ≤ 0 := by
  rw [pos_iff, nonpos_iff, Int.not_lt]

theorem not_neg_iff {a : Amount} : ¬ a < 0 ↔ 0 ≤ a := by
  rw [neg_iff, nonneg_iff, Int.not_lt]

theorem pos_of_not_lt_one {a : Amount} (h : ¬ a < 1) : 0 < a := by
  rw [Int64.lt_iff_toInt_lt, Int64.toInt_one] at h
  rw [pos_iff]
  omega

theorem toInt_min (a b : Amount) : (min a b).toInt = min a.toInt b.toInt := by
  rw [show min a b = if a ≤ b then a else b from rfl]
  split
  · rename_i h
    rw [Int64.le_iff_toInt_le] at h
    omega
  · rename_i h
    rw [Int64.le_iff_toInt_le] at h
    omega

theorem toInt_max (a b : Amount) : (max a b).toInt = max a.toInt b.toInt := by
  rw [show max a b = if a ≤ b then b else a from rfl]
  split
  · rename_i h
    rw [Int64.le_iff_toInt_le] at h
    omega
  · rename_i h
    rw [Int64.le_iff_toInt_le] at h
    omega

theorem max_zero_nonneg (a : Amount) : 0 ≤ max a 0 := by
  rw [nonneg_iff, toInt_max, Int64.toInt_zero]
  exact Int.le_max_right _ _

theorem min_le_right (a b : Amount) : min a b ≤ b := by
  rw [Int64.le_iff_toInt_le, toInt_min]
  exact Int.min_le_right _ _

/-! ## Plain differences -/

theorem toInt_sub_of_fits {a b : Amount} (h : Fits (a.toInt - b.toInt)) :
    (a - b).toInt = a.toInt - b.toInt := by
  obtain ⟨lo, hi⟩ := h
  rw [Int64.toInt_sub, Int.bmod_eq_of_le (by omega) (by omega)]

/-- The difference of two amounts that are not negative is an amount. -/
theorem fits_sub {a b : Amount} (ha : 0 ≤ a) (hb : 0 ≤ b) : Fits (a.toInt - b.toInt) := by
  rw [nonneg_iff] at ha hb
  have ha' := fits_toInt a
  have hb' := fits_toInt b
  unfold Fits at *
  omega

theorem toInt_sub_of_nonneg {a b : Amount} (ha : 0 ≤ a) (hb : 0 ≤ b) :
    (a - b).toInt = a.toInt - b.toInt :=
  toInt_sub_of_fits (fits_sub ha hb)

theorem sub_one_nonneg {a : Amount} (h : ¬ a ≤ 0) : 0 ≤ a - 1 := by
  rw [nonpos_iff] at h
  rw [nonneg_iff, toInt_sub_of_nonneg (nonneg_iff.2 (by omega)) (by decide), Int64.toInt_one]
  omega

/-- The difference of two amounts, where it is one. -/
def sub? (a b : Amount) : Option Amount :=
  if Fits (a.toInt - b.toInt) then some (a - b) else none

theorem sub?_of_nonneg {a b : Amount} (ha : 0 ≤ a) (hb : 0 ≤ b) : sub? a b = some (a - b) :=
  if_pos (fits_sub ha hb)

end Skirmish.Saturating
