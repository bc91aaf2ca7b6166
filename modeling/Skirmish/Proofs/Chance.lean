import Skirmish.Chance
import Mathlib

/-!
# Recorded sources

`Recorded` answers like the source that it holds, and writes down everything that it was asked for.
What a program does with chance is read off the calls of a recorded source.
-/

namespace Skirmish

/-- A question to a source of chance, with the answer where it is an index. -/
inductive Call where
  | unit
  | index (bound answer : Nat)
  deriving DecidableEq, Repr

structure Recorded (σ : Type) where
  source : σ
  /-- The calls so far, the first one in front. -/
  calls : List Call := []

namespace Recorded

variable {σ : Type} [Chance σ]

instance : Chance (Recorded σ) where
  unit s :=
    let (answer, source) := Chance.unit s.source
    (answer, { source, calls := s.calls ++ [.unit] })
  index n s :=
    let (answer, source) := Chance.index n s.source
    (answer, { source, calls := s.calls ++ [.index n answer] })

instance [LawfulChance σ] : LawfulChance (Recorded σ) where
  index_lt n s pos := LawfulChance.index_lt n s.source pos

/-- How many numbers of the unit interval were drawn. -/
def units (s : Recorded σ) : Nat := s.calls.count .unit

/-- The result beside the source that was recorded. -/
def unrecorded {α : Type} (r : α × Recorded σ) : α × σ := (r.1, r.2.source)

@[simp] theorem unit_fst (s : Recorded σ) : (Chance.unit s).1 = (Chance.unit s.source).1 := rfl

@[simp] theorem source_unit (s : Recorded σ) :
    (Chance.unit s).2.source = (Chance.unit s.source).2 := rfl

@[simp] theorem calls_unit (s : Recorded σ) : (Chance.unit s).2.calls = s.calls ++ [.unit] := rfl

@[simp] theorem index_fst (n : Nat) (s : Recorded σ) :
    (Chance.index n s).1 = (Chance.index n s.source).1 := rfl

@[simp] theorem source_index (n : Nat) (s : Recorded σ) :
    (Chance.index n s).2.source = (Chance.index n s.source).2 := rfl

@[simp] theorem calls_index (n : Nat) (s : Recorded σ) :
    (Chance.index n s).2.calls = s.calls ++ [.index n (Chance.index n s.source).1] := rfl

@[simp] theorem units_unit (s : Recorded σ) : (Chance.unit s).2.units = s.units + 1 := by
  simp [units]

@[simp] theorem units_index (n : Nat) (s : Recorded σ) :
    (Chance.index n s).2.units = s.units := by
  simp [units]

end Recorded

end Skirmish
