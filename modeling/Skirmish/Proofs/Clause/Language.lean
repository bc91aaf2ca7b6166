import Skirmish.Clause
import Skirmish.Proofs.Text.Numeral
import Skirmish.Proofs.Text.Pieces

/-!
# The language of clauses

`Says cs a` is the grammar: the text `cs` is a clause, and it writes the action `a`. Every clause
begins with the keyword of its action, and no keyword begins with another, so the readers of
different actions never compete (`Says.unique`) and their order in `plain?` does not matter.

`read_eq_ok_iff` says that reading follows the grammar, `read_eq_error_iff` which of the two faults
any other text has. `Misnames` is the one way to a fault of its own: a clause that would be a buff
if there were such a stat.
-/

namespace Skirmish

/-- A card calls the stat by this name. -/
def Stat.Called (s : Stat) (name : String) : Prop :=
  name = s.name ∨ name = "Attacks" ∧ s = .attack

namespace Clause

open Text

/-! ## Grammar -/

/-- A number below 2 ^ 16 and how it may be written. -/
abbrev Number (cs : List Char) (n : Nat) : Prop := Natural 65535 cs n

/-- A signed number of 16 bits and how it may be written. -/
abbrev Signed (cs : List Char) (i : Int) : Prop := Integer (-32768) 32767 cs i

/-- The keywords before `for` and an amount. -/
def wordedActions : List (String × (Amount → Action)) :=
  [("Defend", .defend), ("Heal", .heal), ("Burn", .burn), ("Poison", .poison), ("Spike", .spike)]

/-- What a piece of an attack clause adds to the attack. The first phrase that it holds counts. -/
inductive Modifies (p : List Char) : Modifier → Prop
  | area : "to all".toList <:+: p → Modifies p .area
  | random : ¬ "to all".toList <:+: p → "randomly".toList <:+: p → Modifies p .random
  | times {n : Nat} : ¬ "to all".toList <:+: p → ¬ "randomly".toList <:+: p →
      "times".toList <:+: p → Number (p.takeWhile (· ≠ ' ')) n → 1 ≤ n → Modifies p (.times n)

def Modifier.count? : Modifier → Option Nat
  | times n => some n
  | _ => none

/-- The last of the counts, or once. -/
def lastCount (ms : List Modifier) : Nat := (ms.filterMap Modifier.count?).getLast?.getD 1

/-- The attack of an amount and some pieces, which are the modifiers `ms`. -/
def attackOf (n : Nat) (ps : List (List Char)) (ms : List Modifier) : Attack where
  amount := Int64.ofNat n
  area := ∃ p ∈ ps, "to all".toList <:+: p
  random := ∃ p ∈ ps, ¬ "to all".toList <:+: p ∧ "randomly".toList <:+: p
  times := UInt32.ofNat (lastCount ms)

inductive Says : List Char → Action → Prop
  | cleanse : Says "Cleanse".toList .cleanse
  | worded {keyword : String} {action : Amount → Action} {amount : List Char} {n : Nat} :
      (keyword, action) ∈ wordedActions → Number amount n →
      Says (keyword.toList ++ " for ".toList ++ amount) (action (Int64.ofNat n))
  | draw {count : List Char} {noun : String} {n : Nat} :
      Number count n → noun = "card" ∨ noun = "cards" →
      Says ("Draw ".toList ++ count ++ " ".toList ++ noun.toList) (.draw (UInt32.ofNat n))
  | buff {name : String} {s : Stat} {amount : List Char} {i : Int} :
      s.Called name → Signed amount i →
      Says ("Buff ".toList ++ name.toList ++ " by ".toList ++ amount) (.buff s (Int64.ofInt i))
  | attack {amount : List Char} {n : Nat} {ps : List (List Char)} {ms : List Modifier} :
      Number amount n → 0 < n → (∀ p ∈ ps, ¬ ", ".toList <:+: p) → List.Forall₂ Modifies ps ms →
      Says (glue ',' (("Attack for ".toList ++ amount) :: ps)) (.attack (attackOf n ps ms))

/-- The text would be a buff if there were a stat of that name. The name ends where ` by ` first
stands. -/
def Misnames (cs : List Char) (name : String) : Prop :=
  (∀ s : Stat, ¬ s.Called name) ∧ ¬ " by ".toList <:+: name.toList ++ " by".toList ∧
    ∃ (amount : List Char) (i : Int), Signed amount i ∧
      cs = "Buff ".toList ++ name.toList ++ " by ".toList ++ amount

/-! ## Readers -/

theorem bind_isPrefixOf?_eq_some_iff {α : Type} {lead cs : List Char}
    {f : List Char → Option α} {x : α} :
    (lead.isPrefixOf? cs).bind f = some x ↔ ∃ rest, cs = lead ++ rest ∧ f rest = some x := by
  rw [Option.bind_eq_some_iff]
  constructor
  · rintro ⟨rest, hrest, hx⟩
    exact ⟨rest, (List.isPrefixOf?_eq_some_iff_append_eq.1 hrest).symm, hx⟩
  · rintro ⟨rest, rfl, hx⟩
    exact ⟨rest, List.isPrefixOf?_eq_some_iff_append_eq.2 rfl, hx⟩

theorem number?_eq_some_iff {cs : List Char} {n : Nat} : number? cs = some n ↔ Number cs n :=
  natural?_eq_some_iff

theorem amount?_eq_some_iff {cs : List Char} {a : Amount} :
    amount? cs = some a ↔ ∃ n, Number cs n ∧ a = Int64.ofNat n := by
  unfold amount?
  rw [Option.map_eq_some_iff]
  constructor
  · rintro ⟨n, hn, rfl⟩
    exact ⟨n, number?_eq_some_iff.1 hn, rfl⟩
  · rintro ⟨n, hn, rfl⟩
    exact ⟨n, number?_eq_some_iff.2 hn, rfl⟩

theorem cleanse?_eq_some_iff {cs : List Char} {a : Action} :
    cleanse? cs = some a ↔ cs = "Cleanse".toList ∧ a = .cleanse := by
  unfold cleanse?
  rw [Option.ite_none_right_eq_some, Option.some.injEq, eq_comm (a := Action.cleanse)]

theorem worded?_eq_some_iff {keyword : String} {cs : List Char} {a : Amount} :
    worded? keyword cs = some a ↔ ∃ amount n, cs = keyword.toList ++ " for ".toList ++ amount ∧
      Number amount n ∧ a = Int64.ofNat n := by
  unfold worded?
  rw [bind_isPrefixOf?_eq_some_iff, String.toList_append]
  constructor
  · rintro ⟨amount, rfl, ha⟩
    obtain ⟨n, hn, rfl⟩ := amount?_eq_some_iff.1 ha
    exact ⟨amount, n, rfl, hn, rfl⟩
  · rintro ⟨amount, n, rfl, hn, rfl⟩
    exact ⟨amount, rfl, amount?_eq_some_iff.2 ⟨n, hn, rfl⟩⟩

/-- A number has no other characters than digits and the plus sign. -/
theorem Number.mem {cs : List Char} {n : Nat} (h : Number cs n) {c : Char} (hc : c ∈ cs) :
    c.isDigit ∨ c = '+' := by
  obtain ⟨-, ds, hds, rfl | rfl⟩ := h
  · exact .inl (hds.digits c hc)
  · rcases List.mem_cons.1 hc with rfl | hc
    · exact .inr rfl
    · exact .inl (hds.digits c hc)

theorem Number.notMem {cs : List Char} {n : Nat} (h : Number cs n) {c : Char}
    (hdigit : c.isDigit = false) (hplus : c ≠ '+') : c ∉ cs := by
  intro hc
  rcases h.mem hc with hd | rfl
  · rw [hdigit] at hd
    cases hd
  · exact hplus rfl

theorem draw?_eq_some_iff {cs : List Char} {a : Action} :
    draw? cs = some a ↔ ∃ (count : List Char) (noun : String) (n : Nat),
      cs = "Draw ".toList ++ count ++ " ".toList ++ noun.toList ∧ Number count n ∧
        (noun = "card" ∨ noun = "cards") ∧ a = .draw (UInt32.ofNat n) := by
  constructor
  · intro h
    obtain ⟨⟨count, noun⟩, hcount, hrest⟩ := Option.bind_eq_some_iff.1 h
    obtain ⟨n, hn, hnoun⟩ := Option.bind_eq_some_iff.1 hrest
    obtain ⟨rest, rfl, hcut⟩ := bind_isPrefixOf?_eq_some_iff.1 hcount
    obtain ⟨rfl, -⟩ := (cut?_eq_some_iff (List.cons_ne_nil ' ' [])).1 hcut
    split at hnoun
    · rename_i hword
      obtain rfl := Option.some.inj hnoun
      rcases hword with rfl | rfl
      · exact ⟨count, "card", n, by simp, number?_eq_some_iff.1 hn, .inl rfl, rfl⟩
      · exact ⟨count, "cards", n, by simp, number?_eq_some_iff.1 hn, .inr rfl, rfl⟩
    · cases hnoun
  · rintro ⟨count, noun, n, rfl, hn, hnoun, rfl⟩
    have hspace : ¬ [' '] <:+: count ++ [' '].dropLast := by
      rw [List.dropLast_singleton, List.append_nil, List.singleton_infix_iff]
      exact hn.notMem (by decide) (by decide)
    refine Option.bind_eq_some_iff.2 ⟨(count, noun.toList), ?_, ?_⟩
    · refine bind_isPrefixOf?_eq_some_iff.2 ⟨count ++ [' '] ++ noun.toList, ?_, ?_⟩
      · simp
      · exact cut?_append (List.cons_ne_nil ' ' []) hspace noun.toList
    · refine Option.bind_eq_some_iff.2 ⟨n, number?_eq_some_iff.2 hn, if_pos ?_⟩
      rcases hnoun with rfl | rfl
      · exact .inl rfl
      · exact .inr rfl

theorem buff?_eq_some_iff {cs : List Char} {name : String} {a : Amount} :
    buff? cs = some (name, a) ↔ ¬ " by ".toList <:+: name.toList ++ " by".toList ∧
      ∃ (amount : List Char) (i : Int), Signed amount i ∧
        cs = "Buff ".toList ++ name.toList ++ " by ".toList ++ amount ∧ a = Int64.ofInt i := by
  have hne : " by ".toList ≠ [] := by decide
  have hdrop : " by ".toList.dropLast = " by".toList := by decide
  constructor
  · intro h
    obtain ⟨⟨stat, amount⟩, hstat, hrest⟩ := Option.bind_eq_some_iff.1 h
    obtain ⟨i, hi, hpair⟩ := Option.bind_eq_some_iff.1 hrest
    obtain ⟨rest, rfl, hcut⟩ := bind_isPrefixOf?_eq_some_iff.1 hstat
    obtain ⟨rfl, hfirst⟩ := (cut?_eq_some_iff hne).1 hcut
    obtain ⟨rfl, rfl⟩ := Prod.mk.inj (Option.some.inj hpair)
    have hname : (String.ofList stat).toList = stat := String.toList_ofList
    rw [hdrop] at hfirst
    rw [hname]
    exact ⟨hfirst, amount, i, integer?_eq_some_iff.1 hi, by simp, rfl⟩
  · rintro ⟨hfirst, amount, i, hi, rfl, rfl⟩
    rw [← hdrop] at hfirst
    refine Option.bind_eq_some_iff.2 ⟨(name.toList, amount), ?_, ?_⟩
    · refine bind_isPrefixOf?_eq_some_iff.2 ⟨name.toList ++ " by ".toList ++ amount, ?_, ?_⟩
      · simp
      · exact cut?_append hne hfirst amount
    · refine Option.bind_eq_some_iff.2 ⟨i, integer?_eq_some_iff.2 hi, ?_⟩
      rw [String.ofList_toList]

/-! ## Attacks -/

theorem modifier?_eq_some_iff {p : List Char} {m : Modifier} :
    modifier? p = some m ↔ Modifies p m := by
  unfold modifier?
  simp only [holds_iff]
  constructor
  · intro h
    split at h
    · rename_i harea
      obtain rfl := Option.some.inj h
      exact .area harea
    · rename_i harea
      split at h
      · rename_i hrandom
        obtain rfl := Option.some.inj h
        exact .random harea hrandom
      · rename_i hrandom
        split at h
        · rename_i htimes
          obtain ⟨n, hn, rfl⟩ := Option.map_eq_some_iff.1 h
          obtain ⟨hn, hpos⟩ := Option.filter_eq_some_iff.1 hn
          exact .times harea hrandom htimes (number?_eq_some_iff.1 hn) (by simpa using hpos)
        · cases h
  · intro h
    cases h with
    | area harea => rw [if_pos harea]
    | random harea hrandom => rw [if_neg harea, if_pos hrandom]
    | times harea hrandom htimes hn hpos =>
      rw [if_neg harea, if_neg hrandom, if_pos htimes, Option.map_eq_some_iff]
      exact ⟨_, Option.filter_eq_some_iff.2 ⟨number?_eq_some_iff.2 hn, by simpa using hpos⟩, rfl⟩

theorem mapM_modifier?_eq_some_iff {ps : List (List Char)} {ms : List Modifier} :
    ps.mapM modifier? = some ms ↔ List.Forall₂ Modifies ps ms := by
  induction ps generalizing ms with
  | nil =>
    rw [List.mapM_nil, List.forall₂_nil_left_iff]
    exact ⟨fun h => (Option.some.inj h).symm, fun h => h ▸ rfl⟩
  | cons p ps ih =>
    rw [List.mapM_cons, List.forall₂_cons_left_iff]
    constructor
    · intro h
      obtain ⟨m, hm, h⟩ := Option.bind_eq_some_iff.1 h
      obtain ⟨ms', hms, h⟩ := Option.bind_eq_some_iff.1 h
      exact ⟨m, ms', modifier?_eq_some_iff.1 hm, ih.1 hms, (Option.some.inj h).symm⟩
    · rintro ⟨m, ms', hm, hms, rfl⟩
      exact Option.bind_eq_some_iff.2 ⟨m, modifier?_eq_some_iff.2 hm,
        Option.bind_eq_some_iff.2 ⟨ms', ih.2 hms, rfl⟩⟩

/-- What modifiers make of an attack, each of them on its own. -/
theorem foldl_modifiers (ms : List Modifier) (a : Attack) :
    ms.foldl Modifier.apply a =
      { amount := a.amount
        area := a.area || decide (Modifier.area ∈ ms)
        random := a.random || decide (Modifier.random ∈ ms)
        times := ((ms.filterMap Modifier.count?).getLast?.map UInt32.ofNat).getD a.times } := by
  induction ms generalizing a with
  | nil => simp
  | cons m ms ih =>
    rw [List.foldl_cons, ih]
    cases m with
    | area => simp [Modifier.apply, Modifier.count?]
    | random => simp [Modifier.apply, Modifier.count?]
    | times n =>
      cases hlast : (ms.filterMap Modifier.count?).getLast? with
      | none => simp [Modifier.apply, Modifier.count?, List.getLast?_cons, hlast]
      | some k => simp [Modifier.apply, Modifier.count?, List.getLast?_cons, hlast]

theorem Modifies.area_iff {p : List Char} {m : Modifier} (h : Modifies p m) :
    Modifier.area = m ↔ "to all".toList <:+: p := by
  cases h with
  | area harea => exact iff_of_true rfl harea
  | random harea => exact iff_of_false nofun harea
  | times harea => exact iff_of_false nofun harea

theorem Modifies.random_iff {p : List Char} {m : Modifier} (h : Modifies p m) :
    Modifier.random = m ↔ ¬ "to all".toList <:+: p ∧ "randomly".toList <:+: p := by
  cases h with
  | area harea => exact iff_of_false nofun fun h => h.1 harea
  | random harea hrandom => exact iff_of_true rfl ⟨harea, hrandom⟩
  | times harea hrandom => exact iff_of_false nofun fun h => hrandom h.2

/-- A modifier is among those of some pieces if one of the pieces shows it. -/
theorem modifier_mem_iff {m : Modifier} {shows : List Char → Prop}
    (hshows : ∀ p m', Modifies p m' → (m = m' ↔ shows p)) {ps : List (List Char)}
    {ms : List Modifier} (h : List.Forall₂ Modifies ps ms) : m ∈ ms ↔ ∃ p ∈ ps, shows p := by
  induction h with
  | nil => simp
  | cons hm hms ih => rw [List.mem_cons, List.exists_mem_cons_iff, ih, hshows _ _ hm]

theorem foldl_modifiers_eq_attackOf (n : Nat) {ps : List (List Char)} {ms : List Modifier}
    (h : List.Forall₂ Modifies ps ms) :
    ms.foldl Modifier.apply { amount := Int64.ofNat n } = attackOf n ps ms := by
  have harea := modifier_mem_iff (fun p m => Modifies.area_iff) h
  have hrandom := modifier_mem_iff (fun p m => Modifies.random_iff) h
  rw [foldl_modifiers]
  unfold attackOf lastCount
  simp only [Bool.false_or, harea, hrandom]
  cases (ms.filterMap Modifier.count?).getLast? with
  | none => rfl
  | some k => rfl

theorem Number.comma_notMem_head {amount : List Char} {n : Nat} (h : Number amount n) :
    ',' ∉ "Attack for ".toList ++ amount := by
  intro hcomma
  rcases List.mem_append.1 hcomma with hcomma | hcomma
  · revert hcomma
    decide
  · exact h.notMem (by decide) (by decide) hcomma

theorem attack?_eq_some_iff {cs : List Char} {a : Action} :
    attack? cs = some a ↔ ∃ (amount : List Char) (n : Nat) (ps : List (List Char))
      (ms : List Modifier), cs = glue ',' (("Attack for ".toList ++ amount) :: ps) ∧
        Number amount n ∧ 0 < n ∧ (∀ p ∈ ps, ¬ ", ".toList <:+: p) ∧ List.Forall₂ Modifies ps ms ∧
        a = .attack (attackOf n ps ms) := by
  unfold attack?
  constructor
  · intro h
    split at h
    · cases h
    · rename_i head ps hpieces
      obtain ⟨-, rfl, hps⟩ := (pieces_eq_iff (by decide)).1 hpieces
      obtain ⟨n, hhead, hrest⟩ := Option.bind_eq_some_iff.1 h
      obtain ⟨ms, hms, hattack⟩ := Option.bind_eq_some_iff.1 hrest
      obtain ⟨amount, rfl, hn⟩ := bind_isPrefixOf?_eq_some_iff.1 hhead
      split at hattack
      · cases hattack
      · rename_i hpos
        have hms := mapM_modifier?_eq_some_iff.1 hms
        rw [foldl_modifiers_eq_attackOf n hms] at hattack
        exact ⟨amount, n, ps, ms, rfl, number?_eq_some_iff.1 hn, Nat.pos_of_ne_zero hpos,
          fun p hp => hps p (List.mem_cons_of_mem _ hp), hms, (Option.some.inj hattack).symm⟩
  · rintro ⟨amount, n, ps, ms, rfl, hn, hpos, hps, hms, rfl⟩
    have hhead : ¬ ", ".toList <:+: "Attack for ".toList ++ amount := fun h =>
      hn.comma_notMem_head (h.subset (by decide))
    have hpieces : pieces ',' (glue ',' (("Attack for ".toList ++ amount) :: ps)) =
        ("Attack for ".toList ++ amount) :: ps :=
      pieces_glue (by decide) (List.cons_ne_nil _ ps) (List.forall_mem_cons.2 ⟨hhead, hps⟩)
    rw [hpieces]
    refine Option.bind_eq_some_iff.2 ⟨n, ?_, Option.bind_eq_some_iff.2 ⟨ms, ?_, ?_⟩⟩
    · exact bind_isPrefixOf?_eq_some_iff.2 ⟨amount, rfl, number?_eq_some_iff.2 hn⟩
    · exact mapM_modifier?_eq_some_iff.2 hms
    · rw [if_neg (Nat.ne_of_gt hpos), foldl_modifiers_eq_attackOf n hms]

/-! ## Keywords -/

def keywords : List String :=
  ["Attack", "Defend", "Heal", "Burn", "Poison", "Spike", "Draw", "Cleanse", "Buff"]

theorem keyword_mem (a : Action) : a.keyword ∈ keywords := by
  cases a <;> simp [Action.keyword, keywords]

/-- No keyword begins with another. -/
theorem keyword_eq_of_isPrefix {cs : List Char} {a b : Action} (ha : a.keyword.toList <+: cs)
    (hb : b.keyword.toList <+: cs) : a.keyword = b.keyword := by
  have hapart : ∀ k ∈ keywords, ∀ l ∈ keywords, k.toList <+: l.toList → k = l := by decide
  rcases List.prefix_or_prefix_of_prefix ha hb with h | h
  · exact hapart _ (keyword_mem a) _ (keyword_mem b) h
  · exact (hapart _ (keyword_mem b) _ (keyword_mem a) h).symm

theorem keyword_of_mem_wordedActions {keyword : String} {action : Amount → Action}
    (h : (keyword, action) ∈ wordedActions) (n : Amount) : (action n).keyword = keyword := by
  simp only [wordedActions, List.mem_cons, List.not_mem_nil, or_false, Prod.mk.injEq] at h
  rcases h with ⟨rfl, rfl⟩ | ⟨rfl, rfl⟩ | ⟨rfl, rfl⟩ | ⟨rfl, rfl⟩ | ⟨rfl, rfl⟩ <;> rfl

/-- Every text that says an action begins with the action's keyword. -/
theorem Says.keyword_isPrefix {cs : List Char} {a : Action} (h : Says cs a) :
    a.keyword.toList <+: cs := by
  cases h with
  | cleanse => exact List.prefix_refl _
  | worded hmem hn =>
    rw [keyword_of_mem_wordedActions hmem, List.append_assoc]
    exact List.prefix_append _ _
  | draw hn hnoun =>
    have hlead : "Draw".toList <+: "Draw ".toList := by decide
    rw [List.append_assoc, List.append_assoc]
    exact hlead.trans (List.prefix_append _ _)
  | buff hs hi =>
    have hlead : "Buff".toList <+: "Buff ".toList := by decide
    rw [List.append_assoc, List.append_assoc]
    exact hlead.trans (List.prefix_append _ _)
  | attack hn hpos hps hms =>
    have hlead : "Attack".toList <+: "Attack for ".toList := by decide
    exact (hlead.trans (List.prefix_append _ _)).trans (isPrefix_glue_cons _ _)

theorem Says.keyword_eq {cs : List Char} {a b : Action} (ha : Says cs a) (hb : Says cs b) :
    a.keyword = b.keyword :=
  keyword_eq_of_isPrefix ha.keyword_isPrefix hb.keyword_isPrefix

/-! ## Stats -/

theorem ofName?_eq_some_iff {name : String} {s : Stat} :
    Stat.ofName? name = some s ↔ s.Called name := by
  unfold Stat.Called
  constructor
  · intro h
    unfold Stat.ofName? at h
    split at h
    · rename_i hplural
      exact .inr ⟨hplural, (Option.some.inj h).symm⟩
    · have hname := List.find?_some h
      exact .inl (by simpa using hname : s.name = name).symm
  · rintro (rfl | ⟨rfl, rfl⟩)
    · exact Stat.ofName?_name s
    · decide

/-- No stat has a name with ` by ` in it, or one that ends in its beginning. -/
theorem not_by_infix_of_called {name : String} {s : Stat} (h : s.Called name) :
    ¬ " by ".toList <:+: name.toList ++ " by".toList := by
  rcases h with rfl | ⟨rfl, rfl⟩
  · cases s <;> decide
  · decide

/-! ## Reading -/

/-- The reader of the actions of a keyword. -/
def reader (keyword : String) (cs : List Char) : Option Action :=
  if keyword = "Cleanse" then cleanse? cs
  else if keyword = "Draw" then draw? cs
  else if keyword = "Attack" then attack? cs
  else if keyword = "Buff" then
    (buff? cs).bind fun (name, amount) => (Stat.ofName? name).map (.buff · amount)
  else (wordedActions.lookup keyword).bind fun action => (worded? keyword cs).map action

theorem reader_of_mem_wordedActions {keyword : String} {action : Amount → Action}
    (h : (keyword, action) ∈ wordedActions) (cs : List Char) :
    reader keyword cs = (worded? keyword cs).map action := by
  simp only [wordedActions, List.mem_cons, List.not_mem_nil, or_false, Prod.mk.injEq] at h
  rcases h with ⟨rfl, rfl⟩ | ⟨rfl, rfl⟩ | ⟨rfl, rfl⟩ | ⟨rfl, rfl⟩ | ⟨rfl, rfl⟩ <;> rfl

/-- The first word chooses a reader that finds what the text says. -/
theorem Says.reader {cs : List Char} {a : Action} (h : Says cs a) :
    reader a.keyword cs = some a := by
  cases h with
  | cleanse => rfl
  | @worded keyword action amount n hmem hn =>
    have hread : worded? keyword (keyword.toList ++ " for ".toList ++ amount) =
        some (Int64.ofNat n) := worded?_eq_some_iff.2 ⟨amount, n, rfl, hn, rfl⟩
    rw [keyword_of_mem_wordedActions hmem, reader_of_mem_wordedActions hmem, hread]
    rfl
  | draw hn hnoun => exact draw?_eq_some_iff.2 ⟨_, _, _, rfl, hn, hnoun, rfl⟩
  | @buff name s amount i hs hi =>
    have hread : buff? ("Buff ".toList ++ name.toList ++ " by ".toList ++ amount) =
        some (name, Int64.ofInt i) :=
      buff?_eq_some_iff.2 ⟨not_by_infix_of_called hs, amount, i, hi, rfl, rfl⟩
    show (buff? _).bind _ = _
    rw [hread]
    show (Stat.ofName? name).map _ = _
    rw [ofName?_eq_some_iff.2 hs]
    rfl
  | attack hn hpos hps hms => exact attack?_eq_some_iff.2 ⟨_, _, _, _, rfl, hn, hpos, hps, hms, rfl⟩

/-- A text says one thing at most. -/
theorem Says.unique {cs : List Char} {a b : Action} (ha : Says cs a) (hb : Says cs b) : a = b := by
  have hread := ha.reader
  rw [ha.keyword_eq hb, hb.reader] at hread
  exact (Option.some.inj hread).symm

theorem says_of_worded? {keyword : String} {action : Amount → Action} {cs : List Char} {a : Action}
    (hmem : (keyword, action) ∈ wordedActions) (h : (worded? keyword cs).map action = some a) :
    Says cs a := by
  obtain ⟨amount, hamount, rfl⟩ := Option.map_eq_some_iff.1 h
  obtain ⟨text, n, rfl, hn, rfl⟩ := worded?_eq_some_iff.1 hamount
  exact .worded hmem hn

theorem findSome?_cons_eq_or {α β : Type} (f : α → Option β) (x : α) (xs : List α) :
    (x :: xs).findSome? f = (f x).or (xs.findSome? f) := by
  rw [← List.singleton_append, List.findSome?_append, List.findSome?_singleton]

/-- The keywords before an amount are tried in the order of the table. -/
theorem plain?_eq (cs : List Char) : plain? cs =
    (cleanse? cs).or
      ((wordedActions.findSome? fun (keyword, action) => (worded? keyword cs).map action).or
        ((draw? cs).or (attack? cs))) := by
  unfold plain? wordedActions
  simp only [findSome?_cons_eq_or, List.findSome?_nil, Option.none_or, Option.or_assoc,
    Option.orElse_eq_orElse, Option.orElse_eq_or]

theorem says_of_plain? {cs : List Char} {a : Action} (h : plain? cs = some a) : Says cs a := by
  simp only [plain?_eq, Option.or_eq_some_iff] at h
  rcases h with h | ⟨-, h | ⟨-, h | ⟨-, h⟩⟩⟩
  · obtain ⟨rfl, rfl⟩ := cleanse?_eq_some_iff.1 h
    exact .cleanse
  · obtain ⟨⟨keyword, action⟩, hmem, h⟩ := List.exists_of_findSome?_eq_some h
    exact says_of_worded? hmem h
  · obtain ⟨count, noun, n, rfl, hn, hnoun, rfl⟩ := draw?_eq_some_iff.1 h
    exact .draw hn hnoun
  · obtain ⟨amount, n, ps, ms, rfl, hn, hpos, hps, hms, rfl⟩ := attack?_eq_some_iff.1 h
    exact .attack hn hpos hps hms

/-- What is not a buff is found by one of the readers of `plain?`. -/
theorem reader_eq_none_of_plain? {cs : List Char} (h : plain? cs = none) {keyword : String}
    (hbuff : keyword ≠ "Buff") : reader keyword cs = none := by
  simp only [plain?_eq, Option.or_eq_none_iff, List.findSome?_eq_none_iff] at h
  obtain ⟨hcleanse, hworded, hdraw, hattack⟩ := h
  unfold reader
  rw [hcleanse, hdraw, hattack, if_neg hbuff]
  split
  · rfl
  · split
    · rfl
    · split
      · rfl
      · rw [Option.bind_eq_none_iff]
        intro action haction
        have hmem : (keyword, action) ∈ wordedActions := by
          obtain ⟨before, behind, hlist, -⟩ := List.lookup_eq_some_iff.1 haction
          rw [hlist]
          exact List.mem_append_right before List.mem_cons_self
        exact hworded (keyword, action) hmem

theorem misnames_iff {cs : List Char} {name : String} :
    Misnames cs name ↔ ∃ amount, buff? cs = some (name, amount) ∧ Stat.ofName? name = none := by
  have hstat : Stat.ofName? name = none ↔ ∀ s : Stat, ¬ s.Called name := by
    simp only [Option.eq_none_iff_forall_ne_some, ne_eq, ofName?_eq_some_iff]
  unfold Misnames
  rw [← hstat]
  constructor
  · rintro ⟨hnone, hfirst, amount, i, hi, hcs⟩
    exact ⟨_, buff?_eq_some_iff.2 ⟨hfirst, amount, i, hi, hcs, rfl⟩, hnone⟩
  · rintro ⟨n, hbuff, hnone⟩
    obtain ⟨hfirst, amount, i, hi, hcs, -⟩ := buff?_eq_some_iff.1 hbuff
    exact ⟨hnone, hfirst, amount, i, hi, hcs⟩

theorem says_of_read {cs : List Char} {a : Action} (h : read cs = .ok a) : Says cs a := by
  unfold read at h
  split at h
  · rename_i name n hbuff
    obtain ⟨-, amount, i, hi, rfl, rfl⟩ := buff?_eq_some_iff.1 hbuff
    split at h
    · rename_i s hs
      obtain rfl := Except.ok.inj h
      exact .buff (ofName?_eq_some_iff.1 hs) hi
    · cases h
  · split at h
    · rename_i b hplain
      obtain rfl := Except.ok.inj h
      exact says_of_plain? hplain
    · cases h

/-- A fault is one of the two: an unknown stat where everything else is a buff, or a text that no
reader takes. -/
theorem cases_read_error {cs : List Char} {fault : Fault} (h : read cs = .error fault) :
    (∃ name, Misnames cs name ∧ fault = .unknownStat name ∧ reader "Buff" cs = none) ∨
      (buff? cs = none ∧ plain? cs = none ∧ fault = .unreadable (String.ofList cs)) := by
  unfold read at h
  split at h
  · rename_i name n hbuff
    split at h
    · cases h
    · rename_i hnone
      refine .inl ⟨name, misnames_iff.2 ⟨n, hbuff, hnone⟩, (Except.error.inj h).symm, ?_⟩
      show (buff? cs).bind _ = none
      rw [hbuff]
      show (Stat.ofName? name).map _ = none
      rw [hnone]
      rfl
  · rename_i hbuff
    split at h
    · cases h
    · rename_i hplain
      exact .inr ⟨hbuff, hplain, (Except.error.inj h).symm⟩

theorem not_says_of_read_error {cs : List Char} {fault : Fault} (h : read cs = .error fault)
    (a : Action) : ¬ Says cs a := by
  intro hsaid
  rcases cases_read_error h with ⟨name, ⟨-, -, amount, i, -, hcs⟩, -, hnone⟩ | ⟨hbuff, hplain, -⟩
  · -- The text begins as a buff, so it could only say one.
    have hlead : (Action.buff .attack 0).keyword.toList <+: cs := by
      have hbuff : "Buff".toList <+: "Buff ".toList := by decide
      rw [hcs, List.append_assoc, List.append_assoc]
      exact hbuff.trans (List.prefix_append _ _)
    have hread := hsaid.reader
    rw [keyword_eq_of_isPrefix hsaid.keyword_isPrefix hlead] at hread
    rw [show (Action.buff .attack 0).keyword = "Buff" from rfl, hnone] at hread
    cases hread
  · have hread := hsaid.reader
    by_cases hkeyword : a.keyword = "Buff"
    · rw [hkeyword] at hread
      have hnone : reader "Buff" cs = none := by
        show (buff? cs).bind _ = none
        rw [hbuff]
        rfl
      rw [hnone] at hread
      cases hread
    · rw [reader_eq_none_of_plain? hplain hkeyword] at hread
      cases hread

/-- Reading follows the grammar. -/
theorem read_eq_ok_iff {cs : List Char} {a : Action} : read cs = .ok a ↔ Says cs a := by
  constructor
  · exact says_of_read
  · intro h
    cases hread : read cs with
    | ok b => rw [h.unique (says_of_read hread)]
    | error fault => exact absurd h (not_says_of_read_error hread a)

theorem read_eq_error_iff {cs : List Char} {fault : Fault} :
    read cs = .error fault ↔ (∃ name, Misnames cs name ∧ fault = .unknownStat name) ∨
      (fault = .unreadable (String.ofList cs) ∧ (∀ a, ¬ Says cs a) ∧
        ∀ name, ¬ Misnames cs name) := by
  constructor
  · intro h
    rcases cases_read_error h with ⟨name, hname, hfault, -⟩ | ⟨hbuff, -, hfault⟩
    · exact .inl ⟨name, hname, hfault⟩
    · refine .inr ⟨hfault, not_says_of_read_error h, fun name hname => ?_⟩
      obtain ⟨amount, hsome, -⟩ := misnames_iff.1 hname
      rw [hbuff] at hsome
      cases hsome
  · rintro (⟨name, hname, rfl⟩ | ⟨rfl, hsaid, hname⟩)
    · obtain ⟨amount, hbuff, hnone⟩ := misnames_iff.1 hname
      unfold read
      rw [hbuff]
      simp only [hnone]
    · cases hread : read cs with
      | ok a => exact absurd (says_of_read hread) (hsaid a)
      | error fault =>
        rcases cases_read_error hread with ⟨name, hmis, -⟩ | ⟨-, -, rfl⟩
        · exact absurd hmis (hname name)
        · rfl

/-- The language of clauses and the faults of all other texts: a text is read as what it says; if
it says nothing, it misnames a stat, or no rule reads it. -/
theorem parse_language (clause : String) :
    (∀ a, parse clause = .ok a ↔ Says clause.toList a) ∧
      ∀ fault, parse clause = .error fault ↔
        (∃ name, Misnames clause.toList name ∧ fault = .unknownStat name) ∨
          (fault = .unreadable clause ∧ (∀ a, ¬ Says clause.toList a) ∧
            ∀ name, ¬ Misnames clause.toList name) := by
  refine ⟨fun a => read_eq_ok_iff, fun fault => ?_⟩
  have h := @read_eq_error_iff clause.toList fault
  rwa [String.ofList_toList] at h

/-- The first phrase of a piece decides, wherever it stands, and the last repeat counts. -/
example : parse "Attack for +2, randomly to all, 007 times, 3 or more times" =
    .ok (.attack { amount := 2, area := true, times := 3 }) := by rfl

end Clause

end Skirmish
