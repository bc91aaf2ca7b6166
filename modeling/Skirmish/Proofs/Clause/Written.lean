import Skirmish.Clause.Printer
import Skirmish.Proofs.Clause.Language
import Skirmish.Proofs.Clause.Limits
import Skirmish.Proofs.Text.Framed

/-!
# Written clauses

The text that is written for an action says the action (`says_render`), as long as the action keeps
to the bounds of the card language. It is framed and has no period in it (`framed_render`,
`period_notMem_render`), so it stays apart from the clauses around it.
-/

namespace Skirmish.Clause

open Text

/-! ## Numbers -/

theorem number_writtenNat {n : Nat} (h : n ≤ 65535) : Number (writtenNat n) n :=
  ⟨h, writtenNat n, decimal_toDigits n, .inl rfl⟩

theorem signed_writtenInt {i : Int} (h : -32768 ≤ i ∧ i ≤ 32767) : Signed (writtenInt i) i := by
  refine ⟨h, writtenNat i.natAbs, i.natAbs, decimal_toDigits _, ?_⟩
  unfold writtenInt
  by_cases hneg : i < 0
  · exact .inr (.inr ⟨if_pos hneg, by omega⟩)
  · exact .inl ⟨if_neg hneg, by omega⟩

/-- An amount of the card language is written without a sign, and read back as itself. -/
theorem exists_writtenInt {a : Amount} (h : 0 ≤ a.toInt ∧ a.toInt ≤ 65535) :
    ∃ n, writtenInt a.toInt = writtenNat n ∧ Number (writtenNat n) n ∧ Int64.ofNat n = a ∧
      (n : Int) = a.toInt := by
  refine ⟨a.toInt.natAbs, if_neg (by omega), number_writtenNat (by omega), ?_, by omega⟩
  apply Int64.toInt_inj.1
  rw [toInt_ofNat (by omega)]
  omega

theorem isDigit_of_mem_writtenNat {n : Nat} {c : Char} (h : c ∈ writtenNat n) : c.isDigit :=
  (decimal_toDigits n).digits c h

theorem framed_writtenNat (n : Nat) : Framed (writtenNat n) :=
  .of_digits (decimal_toDigits n).nonempty (decimal_toDigits n).digits

/-! ## Attacks -/

/-- The modifiers that a written attack names, in the order in which it names them. -/
def writtenModifiers (a : Attack) : List Modifier :=
  (if a.area then [.area] else []) ++ (if a.random then [.random] else []) ++
    (if a.times = 1 then [] else [.times a.times.toNat])

/-- The pieces behind the amount. -/
def modifierPieces (a : Attack) : List (List Char) :=
  (if a.area then ["to all".toList] else []) ++ (if a.random then ["randomly".toList] else []) ++
    (if a.times = 1 then [] else [writtenNat a.times.toNat ++ " times".toList])

theorem attackPieces_eq (a : Attack) : attackPieces a =
    ("Attack for ".toList ++ writtenInt a.amount.toInt) :: modifierPieces a := rfl

theorem mem_modifierPieces {a : Attack} {p : List Char} (h : p ∈ modifierPieces a) :
    p = "to all".toList ∨ p = "randomly".toList ∨
      p = writtenNat a.times.toNat ++ " times".toList := by
  unfold modifierPieces at h
  rcases List.mem_append.1 h with h | h
  · rcases List.mem_append.1 h with h | h
    · split at h
      · exact .inl (List.mem_singleton.1 h)
      · cases h
    · split at h
      · exact .inr (.inl (List.mem_singleton.1 h))
      · cases h
  · split at h
    · cases h
    · exact .inr (.inr (List.mem_singleton.1 h))

/-- A repeat is read as one: its digits and its word hold no other phrase. -/
theorem modifies_times {n : Nat} (h : 1 ≤ n ∧ n ≤ 65535) :
    Modifies (writtenNat n ++ " times".toList) (.times n) := by
  have hapart : ∀ {phrase : List Char} {c : Char}, c ∈ phrase → c.isDigit = false →
      c ∉ " times".toList → ¬ phrase <:+: writtenNat n ++ " times".toList := by
    intro phrase c hc hdigit htimes hin
    rcases List.mem_append.1 (hin.subset hc) with hc | hc
    · rw [isDigit_of_mem_writtenNat hc] at hdigit
      cases hdigit
    · exact htimes hc
  have hcount : (writtenNat n ++ " times".toList).takeWhile (· ≠ ' ') = writtenNat n := by
    rw [List.takeWhile_append_of_pos fun c hc => ?_]
    · exact List.append_nil _
    · rw [decide_eq_true_eq]
      rintro rfl
      exact absurd (isDigit_of_mem_writtenNat hc) (by decide)
  refine .times (hapart (c := 'o') (by decide) (by decide) (by decide))
    (hapart (c := 'r') (by decide) (by decide) (by decide)) ?_ ?_ h.1
  · have hsuffix : "times".toList <:+ " times".toList := by decide
    exact (hsuffix.trans (List.suffix_append _ _)).isInfix
  · rw [hcount]
    exact number_writtenNat h.2

theorem forall₂_modifies {a : Attack} (h : 1 ≤ a.times.toNat ∧ a.times.toNat ≤ 65535) :
    List.Forall₂ Modifies (modifierPieces a) (writtenModifiers a) := by
  have harea : Modifies "to all".toList .area := .area (List.infix_refl _)
  have hrandom : Modifies "randomly".toList .random := .random (by decide) (List.infix_refl _)
  unfold modifierPieces writtenModifiers
  refine List.rel_append (List.rel_append ?_ ?_) ?_
  · cases a.area with
    | false => exact .nil
    | true => exact .cons harea .nil
  · cases a.random with
    | false => exact .nil
    | true => exact .cons hrandom .nil
  · by_cases htimes : a.times = 1
    · rw [if_pos htimes, if_pos htimes]
      exact .nil
    · rw [if_neg htimes, if_neg htimes]
      exact .cons (modifies_times h) .nil

theorem area_mem_writtenModifiers {a : Attack} : .area ∈ writtenModifiers a ↔ a.area := by
  by_cases htimes : a.times = 1 <;> simp [writtenModifiers, htimes]

theorem random_mem_writtenModifiers {a : Attack} : .random ∈ writtenModifiers a ↔ a.random := by
  by_cases htimes : a.times = 1 <;> simp [writtenModifiers, htimes]

theorem counts_writtenModifiers (a : Attack) : (writtenModifiers a).filterMap Modifier.count? =
    if a.times = 1 then [] else [a.times.toNat] := by
  have harea : (if a.area then [Modifier.area] else []).filterMap Modifier.count? = [] := by
    cases a.area <;> rfl
  have hrandom : (if a.random then [Modifier.random] else []).filterMap Modifier.count? = [] := by
    cases a.random <;> rfl
  unfold writtenModifiers
  rw [List.filterMap_append, List.filterMap_append, harea, hrandom]
  by_cases htimes : a.times = 1
  · rw [if_pos htimes, if_pos htimes]
    rfl
  · rw [if_neg htimes, if_neg htimes]
    rfl

/-- The pieces of a written attack add up to the attack. -/
theorem attackOf_written {a : Attack} {n : Nat} (hn : Int64.ofNat n = a.amount)
    (h : 1 ≤ a.times.toNat ∧ a.times.toNat ≤ 65535) :
    attackOf n (modifierPieces a) (writtenModifiers a) = a := by
  rw [← foldl_modifiers_eq_attackOf n (forall₂_modifies h), foldl_modifiers,
    counts_writtenModifiers, hn]
  simp only [area_mem_writtenModifiers, random_mem_writtenModifiers]
  by_cases htimes : a.times = 1
  · rw [if_pos htimes]
    simp [← htimes]
  · rw [if_neg htimes]
    simp

/-- Every text of an action within the bounds says that action. -/
theorem says_attack {a : Attack} (h : (Action.attack a).Writable) :
    Says (render (.attack a)) (.attack a) := by
  obtain ⟨hlo, hhi, htimes⟩ := h
  obtain ⟨n, hwritten, hn, hof, hval⟩ := exists_writtenInt (a := a.amount) ⟨by omega, hhi⟩
  have hsaid := Says.attack hn (by omega) ?_ (forall₂_modifies htimes)
  · rw [attackOf_written hof htimes] at hsaid
    show Says (glue ',' (attackPieces a)) _
    rwa [attackPieces_eq, hwritten]
  · intro p hp hcomma
    have hmem : ',' ∈ p := hcomma.subset (by decide)
    rcases mem_modifierPieces hp with rfl | rfl | rfl
    · revert hmem
      decide
    · revert hmem
      decide
    · rcases List.mem_append.1 hmem with hmem | hmem
      · exact absurd (isDigit_of_mem_writtenNat hmem) (by decide)
      · revert hmem
        decide

/-! ## Clauses -/

theorem says_worded {keyword : String} {action : Amount → Action} {a : Amount}
    (hmem : (keyword, action) ∈ wordedActions) (h : 0 ≤ a.toInt ∧ a.toInt ≤ 65535) :
    Says (worded keyword a) (action a) := by
  obtain ⟨n, hwritten, hn, hof, -⟩ := exists_writtenInt h
  unfold worded
  rw [hwritten, String.toList_append, ← hof]
  exact .worded hmem hn

/-- The text of an action within the bounds says that action. -/
theorem says_render {a : Action} (h : a.Writable) : Says (render a) a := by
  cases a with
  | attack a => exact says_attack h
  | defend n | heal n | burn n | poison n | spike n =>
    exact says_worded (by simp [wordedActions]) h
  | draw n =>
    have hsaid := Says.draw (number_writtenNat h) (.inr rfl : "cards" = "card" ∨ _)
    rw [UInt32.ofNat_toNat] at hsaid
    rwa [List.append_assoc] at hsaid
  | cleanse => exact .cleanse
  | buff s n =>
    have hsaid := Says.buff (.inl rfl : s.Called s.name) (signed_writtenInt h)
    rwa [Int64.ofInt_toInt] at hsaid

/-! ## Both ends -/

theorem framed_keyword (a : Action) : Framed a.keyword.toList := by
  have hall : ∀ k ∈ keywords, Framed k.toList := by decide
  exact hall _ (keyword_mem a)

theorem framed_append_writtenInt {front : List Char} (hfront : Framed front) (middle : List Char)
    (i : Int) : Framed (front ++ middle ++ writtenInt i) := by
  unfold writtenInt
  by_cases hneg : i < 0
  · have hframed := hfront.append (middle ++ ['-']) (framed_writtenNat i.natAbs)
    rw [if_pos hneg]
    simpa using hframed
  · rw [if_neg hneg]
    exact hfront.append middle (framed_writtenNat i.natAbs)

theorem framed_modifierPieces {a : Attack} {p : List Char} (h : p ∈ modifierPieces a) :
    Framed p := by
  have htimes : Framed "times".toList := by decide
  rcases mem_modifierPieces h with rfl | rfl | rfl
  · decide
  · decide
  · have hframed := (framed_writtenNat a.times.toNat).append [' '] htimes
    rwa [List.append_assoc] at hframed

theorem framed_worded {keyword : String} (h : Framed keyword.toList) (a : Amount) :
    Framed (worded keyword a) := by
  unfold worded
  rw [String.toList_append]
  exact framed_append_writtenInt h _ a.toInt

theorem framed_render (a : Action) : Framed (render a) := by
  cases a with
  | attack a =>
    show Framed (glue ',' (attackPieces a))
    rw [attackPieces_eq]
    refine Framed.glue ',' (List.cons_ne_nil _ _) (List.forall_mem_cons.2 ⟨?_, ?_⟩)
    · have hlead : "Attack for ".toList = ("Attack" ++ " for ").toList := by decide
      rw [hlead]
      exact framed_worded (framed_keyword (.attack a)) a.amount
    · exact fun p => framed_modifierPieces
  | defend n | heal n | burn n | poison n | spike n => exact framed_worded (by decide) n
  | draw n =>
    have hcards : Framed "cards".toList := by decide
    have hframed := (framed_keyword (.draw n)).append (' ' :: writtenNat n.toNat ++ [' ']) hcards
    have hrender : render (.draw n) = (Action.draw n).keyword.toList ++
        (' ' :: writtenNat n.toNat ++ [' ']) ++ "cards".toList := by
      show "Draw ".toList ++ writtenNat n.toNat ++ " cards".toList = _
      simp [Action.keyword]
    rwa [hrender]
  | cleanse =>
    show Framed "Cleanse".toList
    decide
  | buff s n =>
    have hframed := framed_append_writtenInt (framed_keyword (.buff s n))
      (' ' :: s.name.toList ++ " by ".toList) n.toInt
    have hrender : render (.buff s n) = (Action.buff s n).keyword.toList ++
        (' ' :: s.name.toList ++ " by ".toList) ++ writtenInt n.toInt := by
      show "Buff ".toList ++ s.name.toList ++ " by ".toList ++ writtenInt n.toInt = _
      simp [Action.keyword]
    rwa [hrender]

/-! ## Periods -/

theorem period_notMem_writtenNat (n : Nat) : '.' ∉ writtenNat n :=
  fun h => absurd (isDigit_of_mem_writtenNat h) (by decide)

theorem period_notMem_writtenInt (i : Int) : '.' ∉ writtenInt i := by
  unfold writtenInt
  by_cases hneg : i < 0
  · rw [if_pos hneg]
    exact List.not_mem_cons_of_ne_of_not_mem (by decide) (period_notMem_writtenNat _)
  · rw [if_neg hneg]
    exact period_notMem_writtenNat _

theorem period_notMem_append {front back : List Char} (hfront : '.' ∉ front) (hback : '.' ∉ back) :
    '.' ∉ front ++ back :=
  fun h => (List.mem_append.1 h).elim hfront hback

theorem period_notMem_modifierPieces {a : Attack} {p : List Char} (h : p ∈ modifierPieces a) :
    '.' ∉ p := by
  rcases mem_modifierPieces h with rfl | rfl | rfl
  · decide
  · decide
  · exact period_notMem_append (period_notMem_writtenNat _) (by decide)

theorem period_notMem_worded {keyword : String} (h : '.' ∉ (keyword ++ " for ").toList)
    (a : Amount) : '.' ∉ worded keyword a :=
  period_notMem_append h (period_notMem_writtenInt _)

theorem period_notMem_render (a : Action) : '.' ∉ render a := by
  cases a with
  | attack a =>
    show '.' ∉ glue ',' (attackPieces a)
    rw [attackPieces_eq]
    intro h
    rcases cases_mem_glue h with h | h | ⟨p, hp, h⟩
    · revert h
      decide
    · revert h
      decide
    · rcases List.mem_cons.1 hp with rfl | hp
      · exact period_notMem_append (by decide) (period_notMem_writtenInt _) h
      · exact period_notMem_modifierPieces hp h
  | defend n | heal n | burn n | poison n | spike n => exact period_notMem_worded (by decide) n
  | draw n =>
    exact period_notMem_append (period_notMem_append (by decide) (period_notMem_writtenNat _))
      (by decide)
  | cleanse =>
    show '.' ∉ "Cleanse".toList
    decide
  | buff s n =>
    have hstat : '.' ∉ s.name.toList := by cases s <;> decide
    exact period_notMem_append (period_notMem_append (period_notMem_append (by decide) hstat)
      (by decide)) (period_notMem_writtenInt _)

theorem read_render {a : Action} (h : a.Writable) : read (render a) = .ok a :=
  read_eq_ok_iff.2 (says_render h)

end Skirmish.Clause
