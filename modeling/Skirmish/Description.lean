import Skirmish.Clause
import Skirmish.Text.Blank

/-!
# Descriptions

A card's description is a list of clauses, each but the last ended by a period and a space; the
last may end in a period too. Strict reading stops at the first fault. Lenient reading keeps every
action and every fault, each in the order of the clauses.
-/

namespace Skirmish.Description

open Text

/-- The text without one period at its end. -/
def dropPeriod (cs : List Char) : List Char :=
  if cs.getLast? = some '.' then cs.dropLast else cs

/-- The clauses of a description. A blank one has none. -/
def clauses (text : String) : List (List Char) :=
  match dropPeriod (trim text.toList) with
  | [] => []
  | body => pieces '.' body

/-- The actions of a description, or its first fault. -/
def parse (text : String) : Except Fault (List Action) :=
  (clauses text).mapM Clause.read

/-- What a description says, and what in it could not be read. -/
structure Reading where
  actions : List Action := []
  faults : List Fault := []
  deriving DecidableEq, Repr

namespace Reading

/-- The whole description was read. -/
def clean (r : Reading) : Bool := r.faults.isEmpty

/-- The reading with one more clause in front. -/
def cons (clause : Except Fault Action) (r : Reading) : Reading :=
  match clause with
  | .ok action => { r with actions := action :: r.actions }
  | .error fault => { r with faults := fault :: r.faults }

end Reading

/-- Everything in a description that can be read. -/
def reading (text : String) : Reading :=
  ((clauses text).map Clause.read).foldr Reading.cons {}

end Skirmish.Description
