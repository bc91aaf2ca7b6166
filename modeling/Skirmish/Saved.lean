import Skirmish.Json.Number
import Skirmish.Json.Parser
import Skirmish.Json.Printer

/-!
# Saved forms

How values are kept as JSON. A record is an object: its members may stand in any order, unknown
ones are ignored, and none of its own may be repeated. The value of a finite type is the name of a
constant, or an object whose only member has that name and is null.
-/

namespace Skirmish

/-- A type whose values are kept as JSON. -/
class Saved (α : Type) where
  toJson : α → Json
  ofJson? : Json → Option α

namespace Saved

/-- The text of a value. -/
def write {α : Type} [Saved α] (a : α) : String := (toJson a).print

/-- The value of a text. -/
def read? {α : Type} [Saved α] (text : String) : Option α := (Json.parse? text).bind ofJson?

/-! ## Plain values -/

def int? : Json → Option Int
  | .number n => n.int?
  | _ => none

/-- An integer from zero to `largest`. -/
def natural? (largest : Nat) (v : Json) : Option Nat :=
  ((int? v).filter fun (n : Int) => 0 ≤ n ∧ n ≤ largest).map Int.toNat

instance : Saved Int64 where
  toJson n := .int n.toInt
  ofJson? v := ((int? v).filter fun (n : Int) =>
    Int64.minValue.toInt ≤ n ∧ n ≤ Int64.maxValue.toInt).map Int64.ofInt

instance : Saved UInt64 where
  toJson n := .nat n.toNat
  ofJson? v := (natural? (UInt64.size - 1) v).map UInt64.ofNat

instance : Saved UInt32 where
  toJson n := .nat n.toNat
  ofJson? v := (natural? (UInt32.size - 1) v).map UInt32.ofNat

instance : Saved Bool where
  toJson b := .bool b
  ofJson?
    | .bool b => some b
    | _ => none

instance : Saved String where
  toJson s := .str s
  ofJson?
    | .string s => s
    | _ => none

instance {α : Type} [Saved α] : Saved (Option α) where
  toJson
    | some a => toJson a
    | none => .null
  ofJson?
    | .null => some none
    | v => (ofJson? v).map some

instance {α : Type} [Saved α] : Saved (List α) where
  toJson as := .array (as.map toJson)
  ofJson?
    | .array vs => vs.mapM ofJson?
    | _ => none

/-- A value of a finite type by its name. -/
def named? {α : Type} (all : List α) (name : α → String) : Json → Option α
  | .string (some s) | .object [(some s, .null)] => all.find? (name · = s)
  | _ => none

/-! ## Records -/

/-- The members of a record, looked up by name. -/
abbrev Fields := String → Option Json

/-- The members of an object, none of whose `own` names is repeated. -/
def fields? (own : List String) : Json → Option Fields
  | .object members => do
    let members ← members.mapM fun (key, v) => key.map (·, v)
    if own.all fun name => members.countP (·.1 = name) ≤ 1 then
      some fun name => members.lookup name
    else
      none
  | _ => none

/-- A member that has to be there. -/
def Fields.required {α : Type} [Saved α] (f : Fields) (name : String) : Option α :=
  (f name).bind ofJson?

/-- A member that is missing when it has its default value. -/
def Fields.defaulting {α : Type} [Saved α] (f : Fields) (name : String) (default : α) :
    Option α :=
  match f name with
  | none => some default
  | some v => ofJson? v

end Saved

end Skirmish
