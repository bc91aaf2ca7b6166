import Skirmish.Action
import Skirmish.Chance
import Skirmish.Fault

/-!
# Recipients

Which places of the pool an attack strikes, in the order in which it strikes them. Only a random
attack draws, once, and only from a pool that somebody is in.
-/

namespace Skirmish

variable {σ : Type} [Chance σ]

/-- The places that an attack strikes in a pool of `size` opponents. -/
def Targeting.recipients (t : Targeting) (size : Nat) (declared : Option Nat) (source : σ) :
    Except Fault (List Nat × σ) :=
  match t with
  | .everyone => if size = 0 then .error .noCandidates else .ok (List.range size, source)
  | .random =>
    if size = 0 then
      .error .noCandidates
    else
      let (i, source) := Chance.index size source
      .ok ([i], source)
  | .declared =>
    match declared with
    | some i => if i < size then .ok ([i], source) else .error .noTarget
    | none => .error .noTarget

/-- Whom an attack strikes, and what is left of the source, when it strikes at all. -/
theorem Targeting.cases_recipients {t : Targeting} {size : Nat} {declared : Option Nat}
    {source source' : σ} {places : List Nat}
    (h : t.recipients size declared source = .ok (places, source')) :
    (t = .everyone ∧ size ≠ 0 ∧ places = List.range size ∧ source' = source) ∨
      (t = .random ∧ size ≠ 0 ∧
        places = [(Chance.index size source).1] ∧ source' = (Chance.index size source).2) ∨
      (t = .declared ∧ ∃ i, declared = some i ∧ i < size ∧ places = [i] ∧ source' = source) := by
  cases t with
  | everyone =>
    by_cases hs : size = 0
    · simp [recipients, hs] at h
    · simp only [recipients, hs, if_false, Except.ok.injEq, Prod.mk.injEq] at h
      exact .inl ⟨rfl, hs, h.1.symm, h.2.symm⟩
  | random =>
    by_cases hs : size = 0
    · simp [recipients, hs] at h
    · simp only [recipients, hs, if_false, Except.ok.injEq, Prod.mk.injEq] at h
      exact .inr (.inl ⟨rfl, hs, h.1.symm, h.2.symm⟩)
  | declared =>
    cases declared with
    | none => simp [recipients] at h
    | some i =>
      by_cases hi : i < size
      · simp only [recipients, hi, if_true, Except.ok.injEq, Prod.mk.injEq] at h
        exact .inr (.inr ⟨rfl, i, rfl, hi, h.1.symm, h.2.symm⟩)
      · simp [recipients, hi] at h

/-- Recipients stand in the pool. -/
theorem Targeting.lt_of_mem_recipients [LawfulChance σ] {t : Targeting} {size : Nat}
    {declared : Option Nat} {source source' : σ} {places : List Nat}
    (h : t.recipients size declared source = .ok (places, source')) {i : Nat} (hi : i ∈ places) :
    i < size := by
  rcases cases_recipients h with ⟨-, -, rfl, -⟩ | ⟨-, hs, rfl, -⟩ | ⟨-, j, -, hj, rfl, -⟩
  · exact List.mem_range.1 hi
  · rw [List.mem_singleton.1 hi]
    exact LawfulChance.index_lt size source (Nat.pos_of_ne_zero hs)
  · rw [List.mem_singleton.1 hi]
    exact hj

end Skirmish
