/-!
# Chance

What a fight asks of a source of randomness: a number between zero and one, and an index below a
bound. A source is lawful when its indices stay below their bounds; nothing else is ever assumed
of it.
-/

namespace Skirmish

class Chance (σ : Type) where
  /-- A number of the unit interval, and the source after the draw. -/
  unit : σ → Float × σ
  /-- An index below a bound, and the source after the draw. -/
  index : Nat → σ → Nat × σ

class LawfulChance (σ : Type) [Chance σ] : Prop where
  index_lt (n : Nat) (s : σ) (pos : 0 < n) : (Chance.index n s).1 < n

end Skirmish
