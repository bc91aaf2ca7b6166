/-!
# Pacing

How long a presentation may pause between the steps of a card, in milliseconds. Pacing is a hint:
no outcome depends on it.
-/

namespace Skirmish

structure Pacing where
  /-- Before each action of a card. -/
  action : UInt64 := 500
  /-- Between the strikes of a repeated attack. -/
  attack : UInt64 := 750
  /-- Between a status effect and its damage. -/
  effectTrigger : UInt64 := 500
  /-- Between burn and poison. -/
  betweenEffects : UInt64 := 1000
  deriving DecidableEq, Repr

/-- No pauses at all. -/
def Pacing.instant : Pacing where
  action := 0
  attack := 0
  effectTrigger := 0
  betweenEffects := 0

end Skirmish
