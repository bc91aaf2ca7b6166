import Skirmish.Proofs.Catalog
import Skirmish.Proofs.Readings

/-!
# The check of a catalog

A loaded catalog has read all its descriptions leniently. Its faults are those of their clauses, in
the order of the entries, and its check is that of reading the descriptions strictly one after
another: both find the first description with a fault (`head?_faults_ofEntries`).
-/

namespace Skirmish

open Description

namespace Catalog

variable {c : Catalog} {entries : List Entry}

theorem faults_ofEntries (h : ofEntries entries = .ok c) :
    c.faults = entries.flatMap fun e => (reading e.description).faults.map (e.name, ·) := by
  unfold faults
  rw [toList_ofEntries h, List.flatMap_map]
  rfl

/-- The first fault of a catalog is that of the first description that has one. -/
theorem head?_faults_ofEntries (h : ofEntries entries = .ok c) :
    c.faults.head?.map (·.2) = entries.findSome? fun e => (reading e.description).faults.head? := by
  rw [faults_ofEntries h, List.head?_flatMap, List.map_findSome?]
  simp [Function.comp_def]

theorem check_eq_ok_iff : c.check = .ok () ↔ c.faults.head?.map (·.2) = none := by
  unfold check
  cases c.faults <;> simp

theorem check_eq_error_iff {fault : Fault} :
    c.check = .error fault ↔ c.faults.head?.map (·.2) = some fault := by
  unfold check
  cases c.faults <;> simp

end Catalog

/-- Lenient reading keeps the action or the fault of every clause, in order. Strict reading yields
the same actions if there is no fault, and the first fault otherwise. The check of a loaded catalog
is that of reading its descriptions strictly, one after another, and its faults are those of their
clauses under the names of their cards. -/
theorem readings_agree :
    (∀ text : String,
      let r := reading text
      r.actions = (clauses text).filterMap Clause.action? ∧
        r.faults = (clauses text).filterMap Clause.fault? ∧
        r.actions.length + r.faults.length = (clauses text).length ∧
        (∀ fault ∈ r.faults, fault.isContent) ∧
        (∀ actions, parse text = .ok actions ↔ r.faults = [] ∧ r.actions = actions) ∧
        ∀ fault, parse text = .error fault ↔ r.faults.head? = some fault) ∧
      ∀ (entries : List Entry) (c : Catalog), Catalog.ofEntries entries = .ok c →
        (c.check = .ok () ↔ ∀ e ∈ entries, ∃ actions, parse e.description = .ok actions) ∧
        (∀ fault, c.check = .error fault ↔
          ∃ before e behind, entries = before ++ e :: behind ∧
            (∀ b ∈ before, ∃ actions, parse b.description = .ok actions) ∧
            parse e.description = .error fault) ∧
        c.faults = entries.flatMap fun e =>
          ((clauses e.description).filterMap Clause.fault?).map (e.name, ·) := by
  refine ⟨fun text => ⟨actions_reading text, faults_reading text, length_reading text,
    fun fault => isContent_of_mem_faults, fun actions => parse_eq_ok_iff,
    fun fault => parse_eq_error_iff⟩, fun entries c hload => ⟨?_, fun fault => ?_, ?_⟩⟩
  · rw [Catalog.check_eq_ok_iff, Catalog.head?_faults_ofEntries hload, List.findSome?_eq_none_iff]
    simp only [exists_parse_iff]
  · rw [Catalog.check_eq_error_iff, Catalog.head?_faults_ofEntries hload,
      List.findSome?_eq_some_iff]
    simp only [exists_parse_iff, parse_eq_error_iff]
    constructor
    · rintro ⟨before, e, behind, heq, hfault, hbefore⟩
      exact ⟨before, e, behind, heq, hbefore, hfault⟩
    · rintro ⟨before, e, behind, heq, hbefore, hfault⟩
      exact ⟨before, e, behind, heq, hfault, hbefore⟩
  · simp only [Catalog.faults_ofEntries hload, faults_reading]

/-- The check meets the wand, whose first and last clause cannot be read. -/
theorem readings_agree_wand :
    let club : Entry := { name := "Club", slot := .mainHand, rarity := .starter, aim := .opponent,
                          description := "Attack for 2" }
    let wand : Entry := { name := "Wand", slot := .spell, rarity := .rare, aim := .opponent,
                          description := "Burn for x. Cleanse. Buff Luck by 1" }
    ∃ c, Catalog.ofEntries [club, wand] = .ok c ∧
      c.check = .error (.unreadable "Burn for x") ∧
      c.faults = [("Wand", .unreadable "Burn for x"), ("Wand", .unknownStat "Luck")] := by
  intro club wand
  obtain ⟨c, hload, -⟩ := @Catalog.exists_ofEntries [club, wand] (by decide)
  obtain ⟨-, hcheck, hfaults⟩ := readings_agree.2 [club, wand] c hload
  have hclub : parse club.description = .ok [.attack { amount := 2 }] := by decide +kernel
  have hwand : parse wand.description = .error (.unreadable "Burn for x") := by decide +kernel
  have hbefore : ∀ b ∈ [club], ∃ actions, parse b.description = .ok actions :=
    List.forall_mem_singleton.2 ⟨_, hclub⟩
  refine ⟨c, hload, (hcheck _).2 ⟨[club], wand, [], rfl, hbefore, hwand⟩, ?_⟩
  rw [hfaults]
  decide +kernel

end Skirmish
