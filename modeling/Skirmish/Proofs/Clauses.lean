import Skirmish.Description
import Skirmish.Proofs.Text.Pieces
import Skirmish.Proofs.Text.Trimmed

/-!
# Clauses of a description

Cutting a description into clauses undoes joining them, whatever blanks stand around the text and
with or without a period at its end (`clauses_joined`, `clauses_joined_period`). Joining them again
gives back the trimmed text but for one period at its end (`trim_eq_glue_clauses`). So the readings
of a description, which see its clauses only, see neither the blanks nor the period.
-/

namespace Skirmish.Description

open Text

/-! ## The period -/

theorem dropPeriod_append_period (cs : List Char) : dropPeriod (cs ++ ['.']) = cs := by
  unfold dropPeriod
  rw [List.getLast?_concat, if_pos rfl, List.dropLast_concat]

theorem dropPeriod_eq_self {cs : List Char} (h : cs.getLast? ≠ some '.') : dropPeriod cs = cs :=
  if_neg h

/-- At most one period is dropped, and only from the end. -/
theorem eq_dropPeriod_append (cs : List Char) :
    cs = dropPeriod cs ++ if cs.getLast? = some '.' then ['.'] else [] := by
  by_cases h : cs.getLast? = some '.'
  · obtain ⟨front, rfl⟩ := List.getLast?_eq_some_iff.1 h
    rw [dropPeriod_append_period, if_pos h]
  · rw [dropPeriod_eq_self h, if_neg h, List.append_nil]

/-! ## Cutting -/

theorem clauses_of_dropPeriod {text : String} {cs : List Char}
    (h : dropPeriod (trim text.toList) = cs) (hne : cs ≠ []) : clauses text = pieces '.' cs := by
  unfold clauses
  rw [h]
  cases cs with
  | nil => exact absurd rfl hne
  | cons c cs => rfl

theorem clauses_of_dropPeriod_nil {text : String} (h : dropPeriod (trim text.toList) = []) :
    clauses text = [] := by
  unfold clauses
  rw [h]

theorem clauses_congr {text text' : String} (h : trim text.toList = trim text'.toList) :
    clauses text = clauses text' := by
  unfold clauses
  rw [h]

/-- Joining the clauses of a description loses what stood around it. -/
theorem glue_clauses (text : String) :
    glue '.' (clauses text) = dropPeriod (trim text.toList) := by
  by_cases h : dropPeriod (trim text.toList) = []
  · rw [clauses_of_dropPeriod_nil h, h]
    rfl
  · rw [clauses_of_dropPeriod rfl h, glue_pieces]

theorem not_infix_of_mem_clauses {text : String} {p : List Char} (h : p ∈ clauses text) :
    ¬ ['.', ' '] <:+: p := by
  by_cases hnil : dropPeriod (trim text.toList) = []
  · rw [clauses_of_dropPeriod_nil hnil] at h
    cases h
  · rw [clauses_of_dropPeriod rfl hnil] at h
    exact not_infix_of_mem_pieces h

theorem trim_eq_glue_clauses (text : String) :
    trim text.toList =
      glue '.' (clauses text) ++ if (trim text.toList).getLast? = some '.' then ['.'] else [] := by
  rw [glue_clauses]
  exact eq_dropPeriod_append _

theorem clauses_eq_nil_iff (text : String) :
    clauses text = [] ↔ Blank text.toList ∨ trim text.toList = ['.'] := by
  rw [← trim_eq_nil_iff]
  constructor
  · intro h
    have htrim := trim_eq_glue_clauses text
    rw [h] at htrim
    split at htrim
    · exact .inr htrim
    · exact .inl htrim
  · rintro (h | h)
    · exact clauses_of_dropPeriod_nil (by rw [h]; rfl)
    · exact clauses_of_dropPeriod_nil (by rw [h]; rfl)

/-! ## Joining -/

/-- The text joins some clauses that hold no separator, and begins in no blank. -/
structure Joins (ps : List (List Char)) (joined : List Char) : Prop where
  eq : glue '.' ps = joined
  apart : ∀ p ∈ ps, ¬ ['.', ' '] <:+: p
  nonempty : joined ≠ []
  first : ∀ c ∈ joined.head?, isBlank c = false

section

variable {ps : List (List Char)} {joined u v : List Char}

theorem Joins.pieces (h : Joins ps joined) : pieces '.' joined = ps := by
  rw [← h.eq]
  refine pieces_glue (by decide) ?_ h.apart
  rintro rfl
  exact h.nonempty h.eq.symm

theorem clauses_between (hu : Blank u) (hv : Blank v) (cs : List Char) :
    clauses (String.ofList (u ++ cs ++ v)) = clauses (String.ofList cs) := by
  refine clauses_congr ?_
  rw [String.toList_ofList, String.toList_ofList, trim_between hu hv]

/-- A period behind the joined clauses is dropped, even if the last of them ends in a blank or in a
period of its own. -/
theorem clauses_joined_period (h : Joins ps joined) (hu : Blank u) (hv : Blank v) :
    clauses (String.ofList (u ++ (joined ++ ['.']) ++ v)) = ps := by
  have htrim : trim (joined ++ ['.']) = joined ++ ['.'] := by
    refine trim_eq_self ?_ ?_
    · rw [List.head?_append_of_ne_nil joined h.nonempty]
      exact h.first
    · rw [List.getLast?_concat]
      rintro d ⟨⟩
      rfl
  rw [clauses_between hu hv, clauses_of_dropPeriod ?_ h.nonempty, h.pieces]
  rw [String.toList_ofList, htrim, dropPeriod_append_period]

theorem clauses_joined (h : Joins ps joined)
    (hlast : ∀ c ∈ joined.getLast?, isBlank c = false ∧ c ≠ '.') (hu : Blank u) (hv : Blank v) :
    clauses (String.ofList (u ++ joined ++ v)) = ps := by
  have htrim : trim joined = joined := trim_eq_self h.first fun c hc => (hlast c hc).1
  rw [clauses_between hu hv, clauses_of_dropPeriod ?_ h.nonempty, h.pieces]
  rw [String.toList_ofList, htrim, dropPeriod_eq_self fun hperiod => (hlast '.' hperiod).2 rfl]

end

/-- The readings see the clauses only. -/
theorem readings_congr {text text' : String} (h : clauses text = clauses text') :
    parse text = parse text' ∧ reading text = reading text' := by
  unfold parse reading
  rw [h]
  exact ⟨rfl, rfl⟩

/-- Cutting inverts joining. Clauses that are joined to a text are found again between any blanks,
with a period behind them or, where the text ends in neither a blank nor a period, without. The
other way round, the clauses of any description hold no separator and are joined to its trimmed
text less one period at the end; there are none exactly in a blank text and in a lone period. So
neither reading sees the blanks around a text, nor one period behind a text that begins in no blank
and ends in neither a blank nor a period. -/
theorem clauses_invert_glue :
    (∀ (ps : List (List Char)) (joined u v : List Char), Joins ps joined → Blank u → Blank v →
        clauses (String.ofList (u ++ (joined ++ ['.']) ++ v)) = ps ∧
          ((∀ c ∈ joined.getLast?, isBlank c = false ∧ c ≠ '.') →
            clauses (String.ofList (u ++ joined ++ v)) = ps)) ∧
      (∀ text : String,
        (trim text.toList = glue '.' (clauses text) ++
          if (trim text.toList).getLast? = some '.' then ['.'] else []) ∧
        (∀ p ∈ clauses text, ¬ ['.', ' '] <:+: p) ∧
        (clauses text = [] ↔ Blank text.toList ∨ trim text.toList = ['.'])) ∧
      ∀ text u v : List Char, Blank u → Blank v →
        (parse (String.ofList (u ++ text ++ v)) = parse (String.ofList text) ∧
          reading (String.ofList (u ++ text ++ v)) = reading (String.ofList text)) ∧
        (text ≠ [] → (∀ c ∈ text.head?, isBlank c = false) →
          (∀ c ∈ text.getLast?, isBlank c = false ∧ c ≠ '.') →
          parse (String.ofList (u ++ (text ++ ['.']) ++ v)) = parse (String.ofList text) ∧
            reading (String.ofList (u ++ (text ++ ['.']) ++ v)) =
              reading (String.ofList text)) := by
  refine ⟨fun ps joined u v h hu hv => ⟨clauses_joined_period h hu hv, fun hlast =>
      clauses_joined h hlast hu hv⟩,
    fun text => ⟨trim_eq_glue_clauses text, fun p => not_infix_of_mem_clauses,
      clauses_eq_nil_iff text⟩,
    fun text u v hu hv => ⟨readings_congr (clauses_between hu hv text), ?_⟩⟩
  intro hne hfirst hlast
  have hjoins : Joins (pieces '.' text) text :=
    { eq := glue_pieces '.' text
      apart := fun _ => not_infix_of_mem_pieces
      nonempty := hne
      first := hfirst }
  have hnil : Blank [] := List.forall_mem_nil _
  have hplain := clauses_joined hjoins hlast hnil hnil
  rw [List.nil_append, List.append_nil] at hplain
  refine readings_congr ?_
  rw [clauses_joined_period hjoins hu hv, hplain]

/-- Three clauses: one that ends in a period, one that is empty, one that begins in a space. -/
theorem clauses_invert_glue_odd :
    let ps := ["Draw 1 card.".toList, [], " Cleanse".toList]
    let joined := "Draw 1 card.. .  Cleanse".toList
    Joins ps joined ∧ Blank ['\t'] ∧ Blank ['\u3000', '\n'] ∧
      (∀ c ∈ joined.getLast?, isBlank c = false ∧ c ≠ '.') ∧
      clauses "\tDraw 1 card.. .  Cleanse.\u3000\n" = ps ∧
      clauses "\tDraw 1 card.. .  Cleanse\u3000\n" = ps ∧
      parse "\tDraw 1 card.. .  Cleanse.\u3000\n" = parse "Draw 1 card.. .  Cleanse" := by
  intro ps joined
  have hjoins : Joins ps joined := by
    refine ⟨by decide, by decide, by decide, ?_⟩
    rintro c ⟨⟩
    rfl
  have hlast : ∀ c ∈ joined.getLast?, isBlank c = false ∧ c ≠ '.' := by
    rintro c ⟨⟩
    exact ⟨rfl, by decide⟩
  have hu : Blank ['\t'] := by decide
  have hv : Blank ['\u3000', '\n'] := by decide
  obtain ⟨hcut, -, hread⟩ := clauses_invert_glue
  obtain ⟨hended, hplain⟩ := hcut ps joined ['\t'] ['\u3000', '\n'] hjoins hu hv
  refine ⟨hjoins, hu, hv, hlast, hended, hplain hlast, ?_⟩
  exact ((hread joined ['\t'] ['\u3000', '\n'] hu hv).2 hjoins.nonempty hjoins.first hlast).1

end Skirmish.Description
