import Skirmish.Card.Traits
import Skirmish.Text.Quoted

/-!
# Faults

Why a text was not read, an action not carried out, or a card not found. The first two are faults
of a card's text; the others arise in play, in a catalog or in a draw of rewards.
-/

namespace Skirmish

inductive Fault where
  /-- No rule of the card language reads the clause. -/
  | unreadable (clause : String)
  /-- A buff names a stat that does not exist. -/
  | unknownStat (name : String)
  /-- The action needs a declared target in the pool. -/
  | noTarget
  /-- The attack finds nobody in the pool. -/
  | noCandidates
  | duplicateCard (name : String)
  | unknownCard (name : String)
  /-- No card of the slot can be a reward. -/
  | noReward (slot : Slot)
  /-- More rewards are asked for than there are. -/
  | tooFewRewards (requested available : Nat)
  deriving DecidableEq, Repr

namespace Fault

def message : Fault → String
  | unreadable clause => "unparsable action: " ++ Text.quote clause
  | unknownStat name => "unknown buff kind: " ++ Text.quote name
  | noTarget => "no target supplied for single-target action"
  | noCandidates => "no valid targets in candidate pool"
  | duplicateCard name => "duplicate card name: " ++ Text.quote name
  | unknownCard name => "unknown card: " ++ Text.quote name
  | noReward slot => "no reward candidates for slot " ++ slot.name
  | tooFewRewards requested available =>
    "requested " ++ requested.repr ++ " distinct rewards but only " ++ available.repr ++
      " are available"

/-- The fault lies in a card's text. -/
def isContent : Fault → Bool
  | unreadable _ | unknownStat _ => true
  | _ => false

end Fault

end Skirmish
