import Skirmish.Text.Pieces
import Mathlib

/-!
# Cutting and gluing

A text has one division into parts that do not hold the separator, and `pieces` finds it
(`pieces_eq_iff`). `cut?` finds the first place where a separator stands (`cut?_eq_some_iff`): no
other place of it begins further ahead, not even one that overlaps.
-/

namespace Skirmish.Text

variable {mark : Char}

/-! ## Pieces -/

theorem pieces_append_separator (hmark : mark ≠ ' ') {p : List Char} (hp : ¬ [mark, ' '] <:+: p)
    (rest : List Char) : pieces mark (p ++ mark :: ' ' :: rest) = p :: pieces mark rest := by
  induction p with
  | nil => simp [pieces]
  | cons c p ih =>
    have hp' : ¬ [mark, ' '] <:+: p := fun h => hp (List.infix_cons h)
    -- What follows `c` is a character of `p`, or the mark, which is not the space.
    cases p with
    | nil =>
      rw [List.cons_append, List.nil_append, pieces, if_neg (fun h => hmark h.2),
        ← List.nil_append (mark :: _), ih hp']
      rfl
    | cons d p =>
      have hcd : ¬ (c = mark ∧ d = ' ') := by
        rintro ⟨rfl, rfl⟩
        exact hp ⟨[], p, rfl⟩
      rw [List.cons_append, List.cons_append, pieces, if_neg hcd, ← List.cons_append, ih hp']
      rfl

theorem pieces_of_not_infix {p : List Char} (hp : ¬ [mark, ' '] <:+: p) :
    pieces mark p = [p] := by
  fun_induction pieces mark p with
  | case1 => rfl
  | case2 c => rfl
  | case3 c d rest h ih =>
    obtain ⟨rfl, rfl⟩ := h
    exact absurd ⟨[], rest, rfl⟩ hp
  | case4 c d rest h ih =>
    rw [ih fun h => hp (List.infix_cons h)]
    rfl

/-- Parts that do not hold the separator are found again. -/
theorem pieces_glue (hmark : mark ≠ ' ') {ps : List (List Char)} (hne : ps ≠ [])
    (hps : ∀ p ∈ ps, ¬ [mark, ' '] <:+: p) : pieces mark (glue mark ps) = ps := by
  induction ps with
  | nil => exact absurd rfl hne
  | cons p ps ih =>
    obtain ⟨hp, hps⟩ := List.forall_mem_cons.1 hps
    cases ps with
    | nil => exact pieces_of_not_infix hp
    | cons q ps =>
      rw [glue, pieces_append_separator hmark hp, ih (List.cons_ne_nil q ps) hps]

theorem head_glue_cons {c d : Char} {p rest : List Char} {ps : List (List Char)}
    (h : glue mark ((c :: p) :: ps) = d :: rest) : c = d := by
  cases ps with
  | nil => exact (List.cons.inj h).1
  | cons q ps => exact (List.cons.inj h).1

theorem not_infix_of_mem_pieces {cs p : List Char} (h : p ∈ pieces mark cs) :
    ¬ [mark, ' '] <:+: p := by
  fun_induction pieces mark cs generalizing p with
  | case1 =>
    obtain rfl := List.mem_singleton.1 h
    simp
  | case2 c =>
    obtain rfl := List.mem_singleton.1 h
    intro hin
    have := hin.length_le
    simp at this
  | case3 c d rest hcd ih =>
    rcases List.mem_cons.1 h with rfl | h
    · simp
    · exact ih h
  | case4 c d rest hcd ih =>
    cases hq : pieces mark (d :: rest) with
    | nil => exact absurd hq (pieces_ne_nil mark _)
    | cons q qs =>
      rw [hq] at h ih
      rcases List.mem_cons.1 h with rfl | h
      · intro hin
        rcases List.infix_cons_iff.1 hin with ⟨q', hq'⟩ | hin
        · -- The separator would begin at `c`, but `d` is the next character.
          obtain ⟨rfl, rfl⟩ : mark = c ∧ ' ' :: q' = q := by simpa using hq'
          have hglue := glue_pieces mark (d :: rest)
          rw [hq] at hglue
          exact hcd ⟨rfl, (head_glue_cons hglue).symm⟩
        · exact ih List.mem_cons_self hin
      · exact ih (List.mem_cons_of_mem q h)

theorem pieces_eq_iff (hmark : mark ≠ ' ') {cs : List Char} {ps : List (List Char)} :
    pieces mark cs = ps ↔
      ps ≠ [] ∧ glue mark ps = cs ∧ ∀ p ∈ ps, ¬ [mark, ' '] <:+: p := by
  constructor
  · rintro rfl
    exact ⟨pieces_ne_nil mark cs, glue_pieces mark cs, fun p => not_infix_of_mem_pieces⟩
  · rintro ⟨hne, rfl, hps⟩
    exact pieces_glue hmark hne hps

theorem isPrefix_glue_cons (p : List Char) (ps : List (List Char)) :
    p <+: glue mark (p :: ps) := by
  cases ps with
  | nil => exact List.prefix_refl p
  | cons q ps => exact List.prefix_append p _

theorem cases_mem_glue {c : Char} {ps : List (List Char)} (h : c ∈ glue mark ps) :
    c = mark ∨ c = ' ' ∨ ∃ p ∈ ps, c ∈ p := by
  induction ps with
  | nil => cases h
  | cons p ps ih =>
    cases ps with
    | nil => exact .inr (.inr ⟨p, List.mem_cons_self, h⟩)
    | cons q ps =>
      rcases List.mem_append.1 h with h | h
      · exact .inr (.inr ⟨p, List.mem_cons_self, h⟩)
      · rcases List.mem_cons.1 h with h | h
        · exact .inl h
        · rcases List.mem_cons.1 h with h | h
          · exact .inr (.inl h)
          · rcases ih h with h | h | ⟨r, hr, h⟩
            · exact .inl h
            · exact .inr (.inl h)
            · exact .inr (.inr ⟨r, List.mem_cons_of_mem p hr, h⟩)

/-! ## Cutting once -/

variable {separator : List Char}

theorem isPrefix_append_separator (before separator after : List Char) :
    before ++ separator.dropLast <+: before ++ separator ++ after := by
  rw [List.append_assoc, List.prefix_append_right_inj]
  have hdrop : separator.dropLast <+: separator := List.dropLast_prefix separator
  exact hdrop.trans (List.prefix_append separator after)

/-- No place of the separator lies ahead of the one between the two parts. -/
theorem cut?_append (hne : separator ≠ []) {before : List Char}
    (hfirst : ¬ separator <:+: before ++ separator.dropLast) (after : List Char) :
    cut? separator (before ++ separator ++ after) = some (before, after) := by
  induction before with
  | nil =>
    obtain ⟨c, rest, rfl⟩ := List.exists_cons_of_ne_nil hne
    have hpre : (c :: rest).isPrefixOf? (c :: rest ++ after) = some after :=
      List.isPrefixOf?_eq_some_iff_append_eq.2 rfl
    rw [List.nil_append, List.cons_append, cut?, ← List.cons_append, hpre]
  | cons c before ih =>
    have hpre : separator.isPrefixOf? (c :: (before ++ separator ++ after)) = none := by
      by_contra h
      obtain ⟨rest, hrest⟩ := Option.ne_none_iff_exists'.1 h
      have hlong : separator <+: c :: (before ++ separator ++ after) :=
        ⟨rest, List.isPrefixOf?_eq_some_iff_append_eq.1 hrest⟩
      refine hfirst (List.IsPrefix.isInfix (List.prefix_of_prefix_length_le hlong ?_ ?_))
      · exact (List.prefix_cons_inj c).2 (isPrefix_append_separator before separator after)
      · have := List.length_pos_iff.2 hne
        simp
        omega
    rw [List.cons_append, List.cons_append, cut?, hpre,
      ih fun h => hfirst (List.infix_cons h)]
    rfl

theorem not_infix_of_cut? (hne : separator ≠ []) {cs before after : List Char}
    (h : cut? separator cs = some (before, after)) :
    ¬ separator <:+: before ++ separator.dropLast := by
  induction cs generalizing before with
  | nil => simp [cut?, hne] at h
  | cons c rest ih =>
    rw [cut?] at h
    split at h
    · obtain ⟨rfl, -⟩ : [] = before ∧ _ = after := by simpa using h
      intro hin
      have hle := hin.length_le
      have hpos := List.length_pos_iff.2 hne
      rw [List.nil_append, List.length_dropLast] at hle
      omega
    · rename_i hpre
      obtain ⟨⟨b, a⟩, hc, hb⟩ := Option.map_eq_some_iff.1 h
      obtain ⟨rfl, rfl⟩ : c :: b = before ∧ a = after := by simpa using hb
      intro hin
      rcases List.infix_cons_iff.1 hin with hin | hin
      · -- A separator at `c` would have been found.
        have hlong := (List.prefix_cons_inj c).2 (isPrefix_append_separator b separator a)
        rw [← append_of_cut? hc] at hlong
        obtain ⟨more, hmore⟩ := hin.trans hlong
        rw [List.isPrefixOf?_eq_some_iff_append_eq.2 hmore] at hpre
        cases hpre
      · exact ih hc hin

/-- The cut is at the first place of the separator. -/
theorem cut?_eq_some_iff (hne : separator ≠ []) {cs before after : List Char} :
    cut? separator cs = some (before, after) ↔
      cs = before ++ separator ++ after ∧ ¬ separator <:+: before ++ separator.dropLast := by
  constructor
  · exact fun h => ⟨append_of_cut? h, not_infix_of_cut? hne h⟩
  · rintro ⟨rfl, hfirst⟩
    exact cut?_append hne hfirst after

end Skirmish.Text
