import Skirmish.Chance
import Skirmish.Chance.Keystream

/-!
# Seeded generators

A generator is a seed and a position in the stream of that seed, so a checkpoint of it is the same
two numbers and restoring one loses nothing. Every draw reads pairs of words from the stream and
moves the position behind them.

An index below `n` is the upper half of the product of `n` and a drawn number. Draws whose lower
half lies past the last whole multiple are thrown away, so that no index is favoured.
-/

namespace Skirmish

structure Generator where
  seed : UInt64
  position : Chance.Position := 0
  deriving DecidableEq, Repr

/-- All that is needed to go on from where a generator stands. -/
structure Checkpoint where
  seed : UInt64
  wordPosition : Nat
  deriving DecidableEq, Repr

namespace Generator

def checkpoint (g : Generator) : Checkpoint where
  seed := g.seed
  wordPosition := g.position.toNat

/-- The generator at a checkpoint. Positions past the end of the stream go round. -/
def ofCheckpoint (c : Checkpoint) : Generator where
  seed := c.seed
  position := BitVec.ofNat 68 c.wordPosition

theorem ofCheckpoint_checkpoint (g : Generator) : ofCheckpoint g.checkpoint = g := by
  simp [ofCheckpoint, checkpoint]

/-- The next number of 64 bits. -/
def next (g : Generator) : UInt64 × Generator :=
  (Chance.doubleWord (Chance.keyOfSeed g.seed) g.position, { g with position := g.position + 2 })

/-- A multiple of `2 ^ -53` from the upper bits of the next number. -/
def unit (g : Generator) : Float × Generator :=
  let (v, g) := g.next
  ((v >>> 11).toFloat * Float.ofBits 0x3ca0000000000000, g)

/-- The largest lower half with which a draw below `n` counts: `n`, shifted until it fills 64
bits, less one. -/
def zone (n : Nat) : Nat := n <<< (63 - n.log2) - 1

/-- Draws until a draw counts, at most `tries` times. -/
def indexWithin (n : Nat) : Nat → Generator → Nat × Generator
  | 0, g => (0, g)
  | tries + 1, g =>
    let (v, g) := g.next
    let product := v.toNat * n
    if product % UInt64.size ≤ zone n then (product / UInt64.size, g)
    else indexWithin n tries g

/-- An index below `n`. After `2 ^ 67` draws the stream has come round to where it began, so if
none of them counts then none ever will. -/
def index (n : Nat) (g : Generator) : Nat × Generator :=
  indexWithin n 0x80000000000000000 g

theorem indexWithin_lt {n : Nat} (pos : 0 < n) (tries : Nat) (g : Generator) :
    (indexWithin n tries g).1 < n := by
  induction tries generalizing g with
  | zero => exact pos
  | succ tries ih =>
    simp only [indexWithin]
    split
    · have : g.next.1.toNat < UInt64.size := g.next.1.toNat_lt
      exact Nat.div_lt_of_lt_mul (Nat.mul_lt_mul_of_pos_right this pos)
    · exact ih g.next.2

end Generator

instance : Chance Generator where
  unit := Generator.unit
  index := Generator.index

instance : LawfulChance Generator where
  index_lt _ g pos := Generator.indexWithin_lt pos _ g

end Skirmish
