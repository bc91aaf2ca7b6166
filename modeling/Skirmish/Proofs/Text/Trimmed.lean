import Skirmish.Text.Blank
import Mathlib

/-!
# Trimmed texts

Blanks at either end of a text are lost in trimming (`trim_between`) and nothing else is
(`trim_eq_self`).
-/

namespace Skirmish.Text

/-- The text holds nothing but white space. -/
def Blank (cs : List Char) : Prop := ∀ c ∈ cs, isBlank c

instance (cs : List Char) : Decidable (Blank cs) :=
  List.decidableBAll (fun c => isBlank c) cs

theorem trimEnd_eq_self {cs : List Char} (h : ∀ c ∈ cs.getLast?, isBlank c = false) :
    trimEnd cs = cs := by
  unfold trimEnd
  cases hcs : cs.reverse with
  | nil => simpa using hcs.symm
  | cons c rest =>
    have hlast : c ∈ cs.getLast? := by rw [← List.head?_reverse, hcs]; rfl
    rw [List.dropWhile_cons_of_neg (by simp [h c hlast]), ← hcs, List.reverse_reverse]

theorem trim_eq_self {cs : List Char} (hfirst : ∀ c ∈ cs.head?, isBlank c = false)
    (hlast : ∀ c ∈ cs.getLast?, isBlank c = false) : trim cs = cs := by
  unfold trim
  cases cs with
  | nil => rfl
  | cons c rest =>
    rw [List.dropWhile_cons_of_neg (by simp [hfirst c rfl]), trimEnd_eq_self hlast]

theorem trimEnd_append {v : List Char} (hv : Blank v) (cs : List Char) :
    trimEnd (cs ++ v) = trimEnd cs := by
  unfold trimEnd
  have hreverse : ∀ c ∈ v.reverse, isBlank c := fun c hc => hv c (List.mem_reverse.1 hc)
  rw [List.reverse_append, List.dropWhile_append_of_pos hreverse]

theorem trimEnd_eq_nil_iff {cs : List Char} : trimEnd cs = [] ↔ Blank cs := by
  unfold trimEnd Blank
  rw [List.reverse_eq_nil_iff, List.dropWhile_eq_nil_iff]
  simp only [List.mem_reverse]

theorem blank_dropWhile_iff {cs : List Char} : Blank (cs.dropWhile isBlank) ↔ Blank cs := by
  have htaken : Blank (cs.takeWhile isBlank) := fun _ => List.mem_takeWhile_imp
  have hsplit : Blank cs ↔ Blank (cs.takeWhile isBlank ++ cs.dropWhile isBlank) := by
    rw [List.takeWhile_append_dropWhile]
  rw [hsplit]
  exact ⟨fun h => List.forall_mem_append.2 ⟨htaken, h⟩, fun h => (List.forall_mem_append.1 h).2⟩

theorem trim_eq_nil_iff {cs : List Char} : trim cs = [] ↔ Blank cs := by
  unfold trim
  rw [trimEnd_eq_nil_iff, blank_dropWhile_iff]

/-- Trimming does not see blanks around a text. -/
theorem trim_between {u v : List Char} (hu : Blank u) (hv : Blank v) (cs : List Char) :
    trim (u ++ cs ++ v) = trim cs := by
  by_cases hcs : Blank cs
  · have hall : Blank (u ++ cs ++ v) :=
      List.forall_mem_append.2 ⟨List.forall_mem_append.2 ⟨hu, hcs⟩, hv⟩
    rw [trim_eq_nil_iff.2 hcs, trim_eq_nil_iff.2 hall]
  · have hkept : ¬ (cs.dropWhile isBlank).isEmpty := fun h =>
      hcs (List.dropWhile_eq_nil_iff.1 (List.isEmpty_iff.1 h))
    unfold trim
    rw [List.append_assoc, List.dropWhile_append_of_pos hu, List.dropWhile_append, if_neg hkept,
      trimEnd_append hv]

end Skirmish.Text
