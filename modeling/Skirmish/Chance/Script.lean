import Skirmish.Chance

/-!
# Scripted draws

A script answers from two prepared lists, one for indices and one for numbers of the unit
interval, and starts again at the front when a list has run out. An index is reduced below its
bound, so one script serves pools of any size. An empty list answers zero.
-/

namespace Skirmish

structure Script where
  indices : Array Nat := #[]
  units : Array Float := #[]
  /-- How many indices have been drawn. -/
  indicesDrawn : Nat := 0
  /-- How many numbers of the unit interval have been drawn. -/
  unitsDrawn : Nat := 0

namespace Script

/-- The entry of a list that a draw meets, going round. -/
def entry? {α : Type} (xs : Array α) (drawn : Nat) : Option α := xs[drawn % xs.size]?

def unit (s : Script) : Float × Script :=
  match entry? s.units s.unitsDrawn with
  | none => (0, s)
  | some x => (x, { s with unitsDrawn := s.unitsDrawn + 1 })

def index (n : Nat) (s : Script) : Nat × Script :=
  match entry? s.indices s.indicesDrawn, n with
  | none, _ | _, 0 => (0, s)
  | some i, n => (i % n, { s with indicesDrawn := s.indicesDrawn + 1 })

theorem index_lt {n : Nat} (pos : 0 < n) (s : Script) : (s.index n).1 < n := by
  unfold index
  split
  · exact pos
  · exact pos
  · exact Nat.mod_lt _ pos

end Script

instance : Chance Script where
  unit := Script.unit
  index := Script.index

instance : LawfulChance Script where
  index_lt _ s pos := s.index_lt pos

end Skirmish
