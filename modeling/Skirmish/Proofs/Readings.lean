import Skirmish.Description

/-!
# Strict and lenient readings

A description is read strictly or leniently, and both are known from its clauses, each of which has
an action or a fault. Lenient reading keeps them all; strict reading yields the actions if there is
no fault, and the first fault otherwise (`parse_eq`).
-/

namespace Skirmish

namespace Clause

/-- The action of a clause that can be read. -/
def action? (clause : List Char) : Option Action := (read clause).toOption

/-- The fault of a clause that cannot. -/
def fault? (clause : List Char) : Option Fault :=
  match read clause with
  | .ok _ => none
  | .error fault => some fault

theorem action?_eq_some_iff {clause : List Char} {a : Action} :
    action? clause = some a ↔ read clause = .ok a := by
  unfold action?
  cases read clause <;> simp [Except.toOption]

theorem fault?_eq_some_iff {clause : List Char} {fault : Fault} :
    fault? clause = some fault ↔ read clause = .error fault := by
  unfold fault?
  cases read clause <;> simp

/-- Reading a clause finds faults of its text only. -/
theorem isContent_of_read_error {clause : List Char} {fault : Fault}
    (h : read clause = .error fault) : fault.isContent := by
  unfold read at h
  split at h
  all_goals
    split at h
    · cases h
    · cases h
      rfl

end Clause

namespace Description

theorem actions_reading (text : String) :
    (reading text).actions = (clauses text).filterMap Clause.action? := by
  unfold reading
  induction clauses text with
  | nil => rfl
  | cons clause rest ih =>
    rw [List.map_cons, List.foldr_cons, List.filterMap_cons, ← ih, Clause.action?]
    cases Clause.read clause <;> rfl

theorem faults_reading (text : String) :
    (reading text).faults = (clauses text).filterMap Clause.fault? := by
  unfold reading
  induction clauses text with
  | nil => rfl
  | cons clause rest ih =>
    rw [List.map_cons, List.foldr_cons, List.filterMap_cons, ← ih, Clause.fault?]
    cases Clause.read clause <;> rfl

/-- Every clause is read as an action or as a fault, and never as both. -/
theorem length_reading (text : String) :
    (reading text).actions.length + (reading text).faults.length = (clauses text).length := by
  unfold reading
  induction clauses text with
  | nil => rfl
  | cons clause rest ih =>
    rw [List.map_cons, List.foldr_cons, List.length_cons, ← ih]
    cases Clause.read clause <;> simp only [Reading.cons, List.length_cons] <;> omega

theorem isContent_of_mem_faults {text : String} {fault : Fault}
    (h : fault ∈ (reading text).faults) : fault.isContent := by
  rw [faults_reading] at h
  obtain ⟨clause, -, hclause⟩ := List.mem_filterMap.1 h
  exact Clause.isContent_of_read_error (Clause.fault?_eq_some_iff.1 hclause)

theorem parse_eq (text : String) :
    parse text =
      match (reading text).faults with
      | [] => .ok (reading text).actions
      | fault :: _ => .error fault := by
  unfold parse reading
  induction clauses text with
  | nil => rfl
  | cons clause rest ih =>
    rw [List.mapM_cons, ih, List.map_cons, List.foldr_cons]
    generalize (rest.map Clause.read).foldr Reading.cons {} = r
    obtain ⟨actions, faults⟩ := r
    cases Clause.read clause with
    | error fault => rfl
    | ok action => cases faults <;> rfl

theorem parse_eq_ok_iff {text : String} {actions : List Action} :
    parse text = .ok actions ↔ (reading text).faults = [] ∧ (reading text).actions = actions := by
  rw [parse_eq]
  cases (reading text).faults <;> simp

theorem parse_eq_error_iff {text : String} {fault : Fault} :
    parse text = .error fault ↔ (reading text).faults.head? = some fault := by
  rw [parse_eq]
  cases (reading text).faults <;> simp

theorem exists_parse_iff {text : String} :
    (∃ actions, parse text = .ok actions) ↔ (reading text).faults.head? = none := by
  rw [List.head?_eq_none_iff]
  simp [parse_eq_ok_iff]

end Description

end Skirmish
