import Skirmish.Text.Numeral
import Mathlib

/-!
# What a numeral is

`Decimal ds n` says that one or more digits write `n`, with any number of zeros in front.
`Natural` and `Integer` add the sign and the range, and are what `natural?` and `integer?` read
(`natural?_eq_some_iff`, `integer?_eq_some_iff`). The digits that `Nat.toDigits` writes are one
decimal of their number (`decimal_toDigits`).
-/

namespace Skirmish.Text

structure Decimal (ds : List Char) (n : Nat) : Prop where
  nonempty : ds ≠ []
  digits : ∀ c ∈ ds, c.isDigit
  value : Nat.ofDigitChars 10 ds 0 = n

/-- A number up to `largest`, with or without a plus sign. -/
def Natural (largest : Nat) (cs : List Char) (n : Nat) : Prop :=
  n ≤ largest ∧ ∃ ds, Decimal ds n ∧ (cs = ds ∨ cs = '+' :: ds)

/-- A number from `least` to `largest`, with or without a sign. -/
def Integer (least largest : Int) (cs : List Char) (i : Int) : Prop :=
  (least ≤ i ∧ i ≤ largest) ∧ ∃ (ds : List Char) (n : Nat), Decimal ds n ∧
    (cs = ds ∧ i = n ∨ cs = '+' :: ds ∧ i = n ∨ cs = '-' :: ds ∧ i = -n)

theorem decimal_toDigits (n : Nat) : Decimal (Nat.toDigits 10 n) n where
  nonempty := Nat.toDigits_ne_nil
  digits _ hc := Nat.isDigit_of_mem_toDigits (by decide) (by decide) hc
  value := Nat.ofDigitChars_ten_toDigits

/-- Decimals have no sign. -/
theorem Decimal.head_ne {c sign : Char} {cs : List Char} {n : Nat} (h : Decimal (c :: cs) n)
    (hsign : sign.isDigit = false) : c ≠ sign := by
  rintro rfl
  rw [h.digits c List.mem_cons_self] at hsign
  cases hsign

theorem digits?_eq_some_iff {cs : List Char} {n : Nat} : digits? cs = some n ↔ Decimal cs n := by
  unfold digits?
  split
  · rename_i h
    obtain ⟨hne, hall⟩ := h
    have hvalue : digitsValue cs = Nat.ofDigitChars 10 cs 0 := Nat.ofDigitChars_eq_foldl.symm
    rw [Option.some.injEq, hvalue]
    exact ⟨fun hn => { nonempty := hne, digits := by simpa using hall, value := hn },
      fun hn => hn.value⟩
  · rename_i h
    refine ⟨nofun, fun hn => ?_⟩
    exact absurd ⟨hn.nonempty, by simpa using hn.digits⟩ h

theorem decimal_dropPlus_iff {cs : List Char} {n : Nat} :
    Decimal (dropPlus cs) n ↔ ∃ ds, Decimal ds n ∧ (cs = ds ∨ cs = '+' :: ds) := by
  unfold dropPlus
  split
  · rename_i rest
    constructor
    · exact fun h => ⟨rest, h, .inr rfl⟩
    · rintro ⟨ds, h, rfl | hds⟩
      · exact absurd rfl (h.head_ne (by decide))
      · rwa [(List.cons.inj hds).2]
  · rename_i hplus
    constructor
    · exact fun h => ⟨cs, h, .inl rfl⟩
    · rintro ⟨ds, h, rfl | rfl⟩
      · exact h
      · exact absurd rfl (hplus ds)

theorem natural?_eq_some_iff {largest n : Nat} {cs : List Char} :
    natural? largest cs = some n ↔ Natural largest cs n := by
  unfold natural? Natural
  rw [Option.filter_eq_some_iff, digits?_eq_some_iff, decimal_dropPlus_iff, decide_eq_true_eq,
    and_comm]

theorem signed?_eq_some_iff {cs : List Char} {i : Int} :
    signed? cs = some i ↔ ∃ (ds : List Char) (n : Nat), Decimal ds n ∧
      (cs = ds ∧ i = n ∨ cs = '+' :: ds ∧ i = n ∨ cs = '-' :: ds ∧ i = -n) := by
  unfold signed?
  split
  · rename_i rest
    rw [Option.map_eq_some_iff]
    constructor
    · rintro ⟨n, hn, rfl⟩
      exact ⟨rest, n, digits?_eq_some_iff.1 hn, .inr (.inr ⟨rfl, rfl⟩)⟩
    · rintro ⟨ds, n, h, ⟨rfl, -⟩ | ⟨hds, -⟩ | ⟨hds, rfl⟩⟩
      · exact absurd rfl (h.head_ne (by decide))
      · cases hds
      · obtain rfl := (List.cons.inj hds).2
        exact ⟨n, digits?_eq_some_iff.2 h, rfl⟩
  · rename_i hminus
    rw [Option.map_eq_some_iff]
    constructor
    · rintro ⟨n, hn, rfl⟩
      obtain ⟨ds, h, hcs⟩ := decimal_dropPlus_iff.1 (digits?_eq_some_iff.1 hn)
      rcases hcs with hcs | hcs
      · exact ⟨ds, n, h, .inl ⟨hcs, rfl⟩⟩
      · exact ⟨ds, n, h, .inr (.inl ⟨hcs, rfl⟩)⟩
    · rintro ⟨ds, n, h, hcs⟩
      rcases hcs with ⟨hcs, rfl⟩ | ⟨hcs, rfl⟩ | ⟨rfl, -⟩
      · exact ⟨n, digits?_eq_some_iff.2 (decimal_dropPlus_iff.2 ⟨ds, h, .inl hcs⟩), rfl⟩
      · exact ⟨n, digits?_eq_some_iff.2 (decimal_dropPlus_iff.2 ⟨ds, h, .inr hcs⟩), rfl⟩
      · exact absurd rfl (hminus ds)

theorem integer?_eq_some_iff {least largest i : Int} {cs : List Char} :
    integer? least largest cs = some i ↔ Integer least largest cs i := by
  unfold integer? Integer
  rw [Option.filter_eq_some_iff, signed?_eq_some_iff, decide_eq_true_eq, and_comm]

end Skirmish.Text
