import Skirmish.Proofs.Clause.Written
import Skirmish.Proofs.Clauses

/-!
# Descriptions and what they say

The readings of a description keep to the bounds of the card language, and every list of actions
within those bounds is written by a description of its own (`parse_exactly_writable`). The written
clauses are framed and without periods, so that joining them neither loses nor moves a boundary.
-/

namespace Skirmish.Description

open Text

/-! ## Clauses of a written description -/

/-- Framed clauses without periods are the clauses of the text that joins them, and a period at the
end changes nothing. -/
theorem clauses_glue {ps : List (List Char)} (hne : ps ≠ []) (hframed : ∀ p ∈ ps, Framed p)
    (hperiod : ∀ p ∈ ps, '.' ∉ p) : clauses (String.ofList (glue '.' ps)) = ps ∧
      clauses (String.ofList (glue '.' ps) ++ ".") = ps := by
  have hglue : Framed (glue '.' ps) := Framed.glue '.' hne hframed
  have hjoins : Joins ps (glue '.' ps) :=
    { eq := rfl
      apart := fun p hp hin => hperiod p hp (hin.subset (by decide))
      nonempty := hglue.ne_nil
      first := hglue.first_not_blank }
  have hlast : ∀ c ∈ (glue '.' ps).getLast?, isBlank c = false ∧ c ≠ '.' := by
    refine fun c hc => ⟨hglue.last_not_blank c hc, ?_⟩
    rintro rfl
    have halphanum := hglue.last
    rw [hc] at halphanum
    revert halphanum
    decide
  have hnil : Blank [] := List.forall_mem_nil _
  constructor
  · simpa using clauses_joined hjoins hlast hnil hnil
  · simpa using clauses_joined_period hjoins hnil hnil

theorem mapM_read_render {actions : List Action} (h : ∀ a ∈ actions, a.Writable) :
    (actions.map Clause.render).mapM Clause.read = .ok actions := by
  induction actions with
  | nil => rfl
  | cons a actions ih =>
    obtain ⟨ha, hactions⟩ := List.forall_mem_cons.1 h
    rw [List.map_cons, List.mapM_cons, Clause.read_render ha, ih hactions]
    rfl

/-- What is written for some actions is read as these actions. -/
theorem parse_render {actions : List Action} (h : ∀ a ∈ actions, a.Writable) :
    parse (render actions) = .ok actions ∧ parse (render actions ++ ".") = .ok actions := by
  cases actions with
  | nil => exact ⟨rfl, rfl⟩
  | cons a actions =>
    have hne : (a :: actions).map Clause.render ≠ [] := List.cons_ne_nil _ _
    obtain ⟨hplain, hended⟩ := clauses_glue hne
      (List.forall_mem_map.2 fun b _ => Clause.framed_render b)
      (List.forall_mem_map.2 fun b _ => Clause.period_notMem_render b)
    unfold parse render
    rw [hplain, hended]
    exact ⟨mapM_read_render h, mapM_read_render h⟩

/-- Reading yields actions within the bounds of the card language and no others, and every list of
such actions has a text of its own that is read as this list. -/
theorem parse_exactly_writable :
    (∀ text, ∀ a ∈ (reading text).actions, a.Writable) ∧
      (∀ text actions, parse text = .ok actions → ∀ a ∈ actions, a.Writable) ∧
        ∀ actions : List Action, (∀ a ∈ actions, a.Writable) →
          parse (render actions) = .ok actions ∧ parse (render actions ++ ".") = .ok actions :=
  ⟨fun _ _ => writable_of_mem_reading, fun _ _ => writable_of_parse, fun _ => parse_render⟩

theorem parse_exactly_writable_mixed :
    (∀ a ∈ [Action.attack { amount := 2, area := true, times := 3 }, .buff .healing (-1), .draw 0],
        a.Writable) ∧
      render [.attack { amount := 2, area := true, times := 3 }, .buff .healing (-1), .draw 0] =
        "Attack for 2, to all, 3 times. Buff Healing by -1. Draw 0 cards" ∧
      parse "Attack for 2, to all, 3 times. Buff Healing by -1. Draw 0 cards" =
        .ok [.attack { amount := 2, area := true, times := 3 }, .buff .healing (-1), .draw 0] := by
  have hwritable : ∀ a ∈ [Action.attack { amount := 2, area := true, times := 3 },
      .buff .healing (-1), .draw 0], a.Writable := by
    refine List.forall_mem_cons.2 ⟨⟨by decide, by decide, by decide, by decide⟩, ?_⟩
    refine List.forall_mem_cons.2 ⟨⟨by decide, by decide⟩, ?_⟩
    exact List.forall_mem_cons.2 ⟨Nat.zero_le 65535, List.forall_mem_nil _⟩
  have htext : render [.attack { amount := 2, area := true, times := 3 }, .buff .healing (-1),
      .draw 0] = "Attack for 2, to all, 3 times. Buff Healing by -1. Draw 0 cards" := by rfl
  refine ⟨hwritable, htext, ?_⟩
  rw [← htext]
  exact (parse_exactly_writable.2.2 _ hwritable).1

end Skirmish.Description
