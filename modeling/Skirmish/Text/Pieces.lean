/-!
# Pieces

Cutting a text at a separator, and putting it back together. `pieces` cuts wherever a mark is
followed by a space, leaves both out, and always yields at least one piece; `glue_pieces` says
that nothing else is lost. `cut?` cuts once, at the first place where a separator stands, and
`append_of_cut?` puts the two parts back. `holds` looks for a phrase anywhere in a text.
-/

namespace Skirmish.Text

/-- The parts of a text between the places where `mark` is followed by a space. -/
def pieces (mark : Char) : List Char → List (List Char)
  | [] => [[]]
  | [c] => [[c]]
  | c :: d :: rest =>
    if c = mark ∧ d = ' ' then
      [] :: pieces mark rest
    else
      (pieces mark (d :: rest)).modifyHead (c :: ·)

/-- The parts joined by `mark` and a space. -/
def glue (mark : Char) : List (List Char) → List Char
  | [] => []
  | [p] => p
  | p :: q :: ps => p ++ mark :: ' ' :: glue mark (q :: ps)

theorem pieces_ne_nil (mark : Char) (cs : List Char) : pieces mark cs ≠ [] := by
  fun_induction pieces mark cs with
  | case1 => simp
  | case2 => simp
  | case3 => simp
  | case4 c d rest h ih =>
    cases hp : pieces mark (d :: rest) with
    | nil => exact absurd hp ih
    | cons p ps => simp

theorem glue_nil_cons (mark : Char) {ps : List (List Char)} (h : ps ≠ []) :
    glue mark ([] :: ps) = mark :: ' ' :: glue mark ps := by
  cases ps with
  | nil => exact absurd rfl h
  | cons p ps => rfl

theorem glue_modifyHead_cons (mark c : Char) {ps : List (List Char)} (h : ps ≠ []) :
    glue mark (ps.modifyHead (c :: ·)) = c :: glue mark ps := by
  match ps, h with
  | [p], _ => rfl
  | p :: q :: ps, _ => rfl

/-- Cutting loses only the separators. -/
theorem glue_pieces (mark : Char) (cs : List Char) : glue mark (pieces mark cs) = cs := by
  fun_induction pieces mark cs with
  | case1 => rfl
  | case2 => rfl
  | case3 c d rest h ih =>
    rw [glue_nil_cons mark (pieces_ne_nil mark rest), ih, h.1, h.2]
  | case4 c d rest h ih =>
    rw [glue_modifyHead_cons mark c (pieces_ne_nil mark (d :: rest)), ih]

theorem eq_append_of_isPrefixOf? {lead cs rest : List Char}
    (h : lead.isPrefixOf? cs = some rest) : cs = lead ++ rest := by
  induction lead generalizing cs with
  | nil => exact Option.some.inj h
  | cons c lead ih =>
    cases cs with
    | nil => cases h
    | cons d cs =>
      have h : (if c == d then lead.isPrefixOf? cs else none) = some rest := h
      split at h
      · rename_i hcd
        rw [eq_of_beq hcd, ih h, List.cons_append]
      · cases h

/-- The phrase stands somewhere in the text. -/
def holds (phrase : List Char) : List Char → Bool
  | [] => phrase.isEmpty
  | c :: cs => phrase.isPrefixOf (c :: cs) || holds phrase cs

theorem holds_iff (phrase cs : List Char) : holds phrase cs ↔ phrase <:+: cs := by
  induction cs with
  | nil => simp [holds]
  | cons c cs ih => simp [holds, ih, List.infix_cons_iff]

/-- The parts before and after the first place where the separator stands. -/
def cut? (separator : List Char) : List Char → Option (List Char × List Char)
  | [] => if separator = [] then some ([], []) else none
  | c :: rest =>
    match separator.isPrefixOf? (c :: rest) with
    | some after => some ([], after)
    | none => (cut? separator rest).map fun (before, after) => (c :: before, after)

theorem append_of_cut? {separator cs before after : List Char}
    (h : cut? separator cs = some (before, after)) : cs = before ++ separator ++ after := by
  induction cs generalizing before with
  | nil => simp_all [cut?]
  | cons c rest ih =>
    rw [cut?] at h
    split at h
    · rename_i rest' h'
      obtain ⟨rfl, rfl⟩ : [] = before ∧ rest' = after := by simpa using h
      simpa using eq_append_of_isPrefixOf? h'
    · obtain ⟨⟨b, a⟩, hc, hb⟩ := Option.map_eq_some_iff.1 h
      obtain ⟨rfl, rfl⟩ : c :: b = before ∧ a = after := by simpa using hb
      simpa using ih hc

end Skirmish.Text
