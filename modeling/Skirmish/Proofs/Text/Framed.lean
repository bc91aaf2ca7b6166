import Skirmish.Proofs.Text.Trimmed
import Skirmish.Text.Pieces

/-!
# Framed texts

A text that begins and ends in a letter or a digit has no blank at either end for trimming to take,
and stays framed when others are put behind it.
-/

namespace Skirmish.Text

/-- The text begins and ends in a letter or a digit. -/
structure Framed (cs : List Char) : Prop where
  first : cs.head?.any Char.isAlphanum
  last : cs.getLast?.any Char.isAlphanum

instance (cs : List Char) : Decidable (Framed cs) :=
  decidable_of_iff (cs.head?.any Char.isAlphanum ∧ cs.getLast?.any Char.isAlphanum)
    ⟨fun ⟨hfirst, hlast⟩ => ⟨hfirst, hlast⟩, fun h => ⟨h.first, h.last⟩⟩

theorem not_isBlank_of_isAlphanum {c : Char} (h : c.isAlphanum) : isBlank c = false := by
  simp only [Char.isAlphanum, Char.isAlpha, Char.isUpper, Char.isLower, Char.isDigit,
    Bool.or_eq_true, Bool.and_eq_true, decide_eq_true_eq, ge_iff_le, UInt32.le_iff_toNat_le] at h
  change ((65 ≤ c.toNat ∧ c.toNat ≤ 90) ∨ (97 ≤ c.toNat ∧ c.toNat ≤ 122)) ∨
    (48 ≤ c.toNat ∧ c.toNat ≤ 57) at h
  simp only [isBlank, Bool.or_eq_false_iff, Bool.and_eq_false_iff, decide_eq_false_iff_not,
    beq_eq_false_iff_ne]
  omega

namespace Framed

theorem ne_nil {cs : List Char} (h : Framed cs) : cs ≠ [] := by
  rintro rfl
  cases h.first

theorem append {front back : List Char} (hfront : Framed front) (middle : List Char)
    (hback : Framed back) : Framed (front ++ middle ++ back) where
  first := by
    rw [List.append_assoc, List.head?_append_of_ne_nil front hfront.ne_nil]
    exact hfront.first
  last := by
    rw [List.getLast?_append_of_ne_nil _ hback.ne_nil]
    exact hback.last

theorem of_digits {ds : List Char} (hne : ds ≠ []) (h : ∀ c ∈ ds, c.isDigit) : Framed ds where
  first := by
    rw [List.head?_eq_some_head hne]
    simp [Char.isAlphanum, h _ (List.head_mem hne)]
  last := by
    rw [List.getLast?_eq_some_getLast hne]
    simp [Char.isAlphanum, h _ (List.getLast_mem hne)]

theorem glue (mark : Char) {ps : List (List Char)} (hne : ps ≠ []) (h : ∀ p ∈ ps, Framed p) :
    Framed (glue mark ps) := by
  induction ps with
  | nil => exact absurd rfl hne
  | cons p ps ih =>
    obtain ⟨hp, hps⟩ := List.forall_mem_cons.1 h
    cases ps with
    | nil => exact hp
    | cons q ps =>
      have htail := hp.append [mark, ' '] (ih (List.cons_ne_nil q ps) hps)
      rwa [List.append_assoc] at htail

theorem first_not_blank {cs : List Char} (h : Framed cs) : ∀ c ∈ cs.head?, isBlank c = false := by
  obtain ⟨c, hc, hfirst⟩ := (Option.any_eq_true _ _).1 h.first
  intro d hd
  obtain rfl := Option.mem_unique hc hd
  exact not_isBlank_of_isAlphanum hfirst

theorem last_not_blank {cs : List Char} (h : Framed cs) :
    ∀ c ∈ cs.getLast?, isBlank c = false := by
  obtain ⟨c, hc, hlast⟩ := (Option.any_eq_true _ _).1 h.last
  intro d hd
  obtain rfl := Option.mem_unique hc hd
  exact not_isBlank_of_isAlphanum hlast

end Framed

end Skirmish.Text
