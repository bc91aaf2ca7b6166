import Skirmish.Card.Traits
import Skirmish.Pacing

/-!
# Settings

Pacing, and the weights of the rarities. A roll is compared with the running totals of the
weights, in their order, and the first that it does not exceed decides; a roll past all of them
takes the last rarity. A rarity without a weight is never rolled, unless there are no weights.
-/

namespace Skirmish

structure Settings where
  pacing : Pacing := {}
  weights : List (Rarity × Float32) := [(.common, 0.75), (.rare, 0.25)]

namespace Settings

/-- Changes the first weight of a rarity, or adds one behind the others. -/
def setWeight (s : Settings) (rarity : Rarity) (weight : Float32) : Settings :=
  match s.weights.findIdx? (·.1 = rarity) with
  | some i => { s with weights := s.weights.set i (rarity, weight) }
  | none => { s with weights := s.weights ++ [(rarity, weight)] }

/-- The rarity has a weight. -/
def hasWeight (s : Settings) (rarity : Rarity) : Bool := s.weights.any (·.1 = rarity)

/-- Each rarity with the total of the weights up to it, on top of a first total. -/
def totals (first : Float) : List (Rarity × Float32) → List (Rarity × Float)
  | [] => []
  | (rarity, weight) :: rest =>
    let total := first + weight.toFloat
    (rarity, total) :: totals total rest

/-- The rarity of a roll of the unit interval. -/
def rarityFor (s : Settings) (roll : Float) : Rarity :=
  match (totals 0 s.weights).find? (roll ≤ ·.2) with
  | some (rarity, _) => rarity
  | none => (s.weights.getLast?.map (·.1)).getD .common

end Settings

end Skirmish
