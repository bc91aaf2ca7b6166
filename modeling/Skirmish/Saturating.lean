/-!
# Saturating amounts

Life, counters, buffs and damage are 64-bit signed amounts. A sum or difference that would leave
the range stays at its nearer end: `clamp` names that end, and `toInt_add` and `toInt_sub` read
both operations as the exact integer result, clamped.
-/

namespace Skirmish

/-- An amount of life, of a counter or of damage. -/
abbrev Amount := Int64

namespace Saturating

/-- The amount nearest to an integer. -/
def clamp (x : Int) : Int :=
  max (-0x8000000000000000) (min x 0x7fffffffffffffff)

theorem clamp_of_mem {x : Int} (lo : -0x8000000000000000 ≤ x) (hi : x ≤ 0x7fffffffffffffff) :
    clamp x = x := by
  unfold clamp
  omega

theorem toInt_ofIntClamp (x : Int) : (Int64.ofIntClamp x).toInt = clamp x := by
  have lo : Int64.minValue.toInt = -0x8000000000000000 := rfl
  have hi : Int64.maxValue.toInt = 0x7fffffffffffffff := rfl
  by_cases hlo : x < -0x8000000000000000
  · have h : ¬ Int64.minValue.toInt ≤ x := by omega
    rw [Int64.ofIntClamp, dif_neg h]
    unfold clamp
    omega
  · by_cases hhi : 0x7fffffffffffffff < x
    · have h : Int64.minValue.toInt ≤ x := by omega
      have h' : ¬ x ≤ Int64.maxValue.toInt := by omega
      rw [Int64.ofIntClamp, dif_pos h, dif_neg h']
      unfold clamp
      omega
    · rw [Int64.toInt_ofIntClamp (by omega) (by omega), clamp_of_mem (by omega) (by omega)]

/-- The sum, kept in range. -/
def add (a b : Amount) : Amount :=
  Int64.ofIntClamp (a.toInt + b.toInt)

/-- The difference, kept in range. -/
def sub (a b : Amount) : Amount :=
  Int64.ofIntClamp (a.toInt - b.toInt)

theorem toInt_add (a b : Amount) : (add a b).toInt = clamp (a.toInt + b.toInt) :=
  toInt_ofIntClamp _

theorem toInt_sub (a b : Amount) : (sub a b).toInt = clamp (a.toInt - b.toInt) :=
  toInt_ofIntClamp _

end Saturating

end Skirmish
