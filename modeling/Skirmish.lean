import Skirmish.Catalog.Builtin
import Skirmish.Proofs.Arena
import Skirmish.Proofs.Attempts
import Skirmish.Proofs.Check
import Skirmish.Proofs.Checkpoint
import Skirmish.Proofs.Clauses
import Skirmish.Proofs.Description
import Skirmish.Proofs.Exact.Combat
import Skirmish.Proofs.Fighter.Gains
import Skirmish.Proofs.Fighter.Hits
import Skirmish.Proofs.Fighter.Waning
import Skirmish.Proofs.Frame
import Skirmish.Proofs.Loadout
import Skirmish.Proofs.Parts
import Skirmish.Proofs.Rearranged
import Skirmish.Proofs.Retold
import Skirmish.Proofs.Rewards.InOrder
import Skirmish.Proofs.Streams
import Skirmish.Saved.Settings
