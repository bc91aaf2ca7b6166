import Skirmish.Catalog
import Mathlib

/-!
# Loaded catalogs

`Indexed` is what every added card keeps up: a name has a place exactly when the card at this
place has the name. So the cards of a loaded catalog have different names, and a name finds its
card.

Entries are added as long as their names are new. So a list of entries is loaded whole, or refused
for its first repeated name (`exists_repeated` splits the list there), and `Holds` says what a
loaded catalog answers from then on.
-/

namespace Skirmish.Catalog

def Indexed (c : Catalog) : Prop :=
  ∀ (name : String) (i : Nat),
    c.places[name]? = some i ↔ ∃ card, c.cards[i]? = some card ∧ card.name = name

theorem indexed_empty : Indexed {} := by
  intro name i
  simp

theorem Indexed.add {c c' : Catalog} {e : Entry} (h : c.Indexed) (hadd : c.add e = .ok c') :
    c'.Indexed := by
  unfold Catalog.add at hadd
  split at hadd
  · cases hadd
  rename_i hnew
  obtain rfl := Except.ok.inj hadd
  have hplace : c.places[e.name]? = none := by simpa using hnew
  intro name i
  show (c.places.insert e.name c.cards.size)[name]? = some i ↔
    ∃ card, (c.cards.push (Card.ofEntry e))[i]? = some card ∧ card.name = name
  rw [Std.HashMap.getElem?_insert, Array.getElem?_push]
  by_cases hi : i = c.cards.size
  · -- The new card stands here, and no card did before.
    have hold : c.places[name]? ≠ some c.cards.size := by
      rw [ne_eq, h name c.cards.size]
      simp
    subst hi
    by_cases hname : e.name = name
    · simp [hname, Card.ofEntry]
    · simp [hname, hold, Card.ofEntry]
  · rw [if_neg hi, ← h name i]
    by_cases hname : e.name = name
    · subst hname
      simp [hplace, Ne.symm hi]
    · simp [hname]

theorem Indexed.foldlM_add {c c' : Catalog} {entries : List Entry} (h : c.Indexed)
    (hfold : entries.foldlM Catalog.add c = .ok c') : c'.Indexed := by
  induction entries generalizing c with
  | nil =>
    obtain rfl := Except.ok.inj hfold
    exact h
  | cons e entries ih =>
    rw [List.foldlM_cons] at hfold
    cases hadd : c.add e with
    | error fault =>
      rw [hadd] at hfold
      cases hfold
    | ok next =>
      rw [hadd] at hfold
      exact ih (h.add hadd) hfold

theorem indexed_ofEntries {c : Catalog} {entries : List Entry} (h : ofEntries entries = .ok c) :
    c.Indexed :=
  indexed_empty.foldlM_add h

/-- A name has one place, so no two cards share it. -/
theorem Indexed.names_nodup {c : Catalog} (h : c.Indexed) : (c.toList.map (·.name)).Nodup := by
  rw [List.Nodup, List.pairwise_map, List.pairwise_iff_getElem]
  intro i j hi hj hij hname
  have hfirst : c.places[c.toList[i].name]? = some i :=
    (h _ i).2 ⟨c.toList[i], by simp [toList], rfl⟩
  have hsecond : c.places[c.toList[i].name]? = some j :=
    (h _ j).2 ⟨c.toList[j], by simp [toList], hname.symm⟩
  rw [hfirst] at hsecond
  have := Option.some.inj hsecond
  omega

/-! ## Lookups -/

theorem Indexed.get?_eq_some_iff {c : Catalog} (h : c.Indexed) {name : String} {card : Card} :
    c.get? name = some card ↔ card ∈ c.toList ∧ card.name = name := by
  unfold get?
  rw [Option.bind_eq_some_iff]
  constructor
  · rintro ⟨i, hplace, hcard⟩
    obtain ⟨other, hother, hname⟩ := (h name i).1 hplace
    obtain rfl : other = card := Option.some.inj (hother.symm.trans hcard)
    exact ⟨Array.mem_toList_iff.2 (Array.mem_of_getElem? hcard), hname⟩
  · rintro ⟨hmem, hname⟩
    obtain ⟨i, hcard⟩ := Array.mem_iff_getElem?.1 (Array.mem_toList_iff.1 hmem)
    exact ⟨i, (h name i).2 ⟨card, hcard, hname⟩, hcard⟩

theorem Indexed.contains_iff {c : Catalog} (h : c.Indexed) {name : String} :
    c.contains name ↔ name ∈ c.toList.map (·.name) := by
  have hplaces : c.contains name = c.places[name]?.isSome :=
    Std.HashMap.contains_eq_isSome_getElem?
  rw [hplaces, Option.isSome_iff_exists, List.mem_map]
  constructor
  · rintro ⟨i, hplace⟩
    obtain ⟨card, hcard, hname⟩ := (h name i).1 hplace
    exact ⟨card, Array.mem_toList_iff.2 (Array.mem_of_getElem? hcard), hname⟩
  · rintro ⟨card, hmem, hname⟩
    obtain ⟨i, hcard⟩ := Array.mem_iff_getElem?.1 (Array.mem_toList_iff.1 hmem)
    exact ⟨i, (h name i).2 ⟨card, hcard, hname⟩⟩

theorem find_eq_ok_iff (c : Catalog) (name : String) (card : Card) :
    c.find name = .ok card ↔ c.get? name = some card := by
  unfold find
  cases c.get? name <;> simp

theorem find_eq_error_iff (c : Catalog) (name : String) (fault : Fault) :
    c.find name = .error fault ↔ c.get? name = none ∧ fault = .unknownCard name := by
  unfold find
  cases c.get? name <;> simp [eq_comm]

/-! ## Loading -/

theorem add_of_taken {c : Catalog} {e : Entry} (h : c.contains e.name) :
    c.add e = .error (.duplicateCard e.name) :=
  if_pos h

theorem exists_add {c : Catalog} {e : Entry} (h : ¬c.contains e.name) :
    ∃ c', c.add e = .ok c' ∧ c'.toList = c.toList ++ [Card.ofEntry e] :=
  ⟨_, if_neg h, by simp [toList]⟩

theorem map_name_ofEntry (entries : List Entry) :
    (entries.map Card.ofEntry).map (·.name) = entries.map (·.name) := by
  rw [List.map_map]
  rfl

/-- Entries with new, different names are all added. -/
theorem Indexed.exists_foldlM_add {c : Catalog} {entries : List Entry} (h : c.Indexed)
    (hnodup : (c.toList.map (·.name) ++ entries.map (·.name)).Nodup) :
    ∃ c', entries.foldlM Catalog.add c = .ok c' ∧
      c'.toList = c.toList ++ entries.map Card.ofEntry := by
  induction entries generalizing c with
  | nil => exact ⟨c, rfl, (List.append_nil _).symm⟩
  | cons e entries ih =>
    have hnew : ¬c.contains e.name := by
      rw [h.contains_iff]
      exact fun hmem => (List.nodup_append.1 hnodup).2.2 _ hmem _ List.mem_cons_self rfl
    obtain ⟨next, hadd, hcards⟩ := exists_add hnew
    have hrest : (next.toList.map (·.name) ++ entries.map (·.name)).Nodup := by
      rw [hcards, List.map_append, List.append_assoc]
      exact hnodup
    obtain ⟨c', hfold, hcards'⟩ := ih (h.add hadd) hrest
    refine ⟨c', ?_, ?_⟩
    · rw [List.foldlM_cons, hadd]
      exact hfold
    · rw [hcards', hcards, List.append_assoc]
      rfl

/-- Names are all different, or there is a first that occurred before. -/
theorem exists_repeated (entries : List Entry) :
    (entries.map (·.name)).Nodup ∨
      ∃ before e behind, entries = before ++ e :: behind ∧ (before.map (·.name)).Nodup ∧
        e.name ∈ before.map (·.name) := by
  induction entries using List.reverseRecOn with
  | nil => exact .inl List.nodup_nil
  | append_singleton entries e ih =>
    rcases ih with hnodup | ⟨before, first, behind, rfl, hrepeated⟩
    · by_cases hmem : e.name ∈ entries.map (·.name)
      · exact .inr ⟨entries, e, [], rfl, hnodup, hmem⟩
      · refine .inl ?_
        rw [List.map_append]
        show (entries.map (·.name) ++ [e.name]).Nodup
        rw [← List.concat_eq_append]
        exact hnodup.concat hmem
    · exact .inr ⟨before, first, behind ++ [e], by simp, hrepeated⟩

theorem exists_ofEntries {entries : List Entry} (h : (entries.map (·.name)).Nodup) :
    ∃ c, ofEntries entries = .ok c ∧ c.toList = entries.map Card.ofEntry :=
  indexed_empty.exists_foldlM_add h

theorem ofEntries_of_repeated {before behind : List Entry} {e : Entry}
    (h : (before.map (·.name)).Nodup) (hmem : e.name ∈ before.map (·.name)) :
    ofEntries (before ++ e :: behind) = .error (.duplicateCard e.name) := by
  obtain ⟨c, hload, hcards⟩ := exists_ofEntries h
  have htaken : c.contains e.name := by
    rw [(indexed_ofEntries hload).contains_iff, hcards, map_name_ofEntry]
    exact hmem
  unfold ofEntries at hload ⊢
  rw [List.foldlM_append, hload]
  show (e :: behind).foldlM add c = _
  rw [List.foldlM_cons, add_of_taken htaken]
  rfl

theorem ofEntries_eq_error_iff {entries : List Entry} {fault : Fault} :
    ofEntries entries = .error fault ↔
      ∃ before e behind, entries = before ++ e :: behind ∧ (before.map (·.name)).Nodup ∧
        e.name ∈ before.map (·.name) ∧ fault = .duplicateCard e.name := by
  constructor
  · intro h
    rcases exists_repeated entries with hnodup | ⟨before, e, behind, rfl, hbefore, hmem⟩
    · obtain ⟨c, hload, -⟩ := exists_ofEntries hnodup
      rw [hload] at h
      cases h
    · rw [ofEntries_of_repeated hbefore hmem] at h
      exact ⟨before, e, behind, rfl, hbefore, hmem, (Except.error.inj h).symm⟩
  · rintro ⟨before, e, behind, rfl, hbefore, hmem, rfl⟩
    exact ofEntries_of_repeated hbefore hmem

theorem nodup_of_ofEntries {c : Catalog} {entries : List Entry} (h : ofEntries entries = .ok c) :
    (entries.map (·.name)).Nodup := by
  rcases exists_repeated entries with hnodup | ⟨before, e, behind, rfl, hbefore, hmem⟩
  · exact hnodup
  · rw [ofEntries_of_repeated hbefore hmem] at h
    cases h

/-- A loaded catalog has the card of each entry, in order. -/
theorem toList_ofEntries {c : Catalog} {entries : List Entry} (h : ofEntries entries = .ok c) :
    c.toList = entries.map Card.ofEntry := by
  obtain ⟨c', hload, hcards⟩ := exists_ofEntries (nodup_of_ofEntries h)
  obtain rfl : c' = c := Except.ok.inj (hload.symm.trans h)
  exact hcards

/-! ## Selections -/

/-- Sorting a list by a key, one key after the other, keeps all of it. -/
theorem perm_flatMap_filter {α β : Type} [DecidableEq β] (key : α → β) {keys : List β}
    (hkeys : keys.Nodup) {list : List α} (h : ∀ a ∈ list, key a ∈ keys) :
    (keys.flatMap fun k => list.filter (key · = k)).Perm list := by
  induction keys generalizing list with
  | nil =>
    obtain rfl : list = [] := List.eq_nil_iff_forall_not_mem.2 fun a ha => by simpa using h a ha
    exact List.Perm.nil
  | cons k keys ih =>
    obtain ⟨hk, hkeys⟩ := List.nodup_cons.1 hkeys
    have hrest : ∀ a ∈ list.filter (key · ≠ k), key a ∈ keys := by
      intro a ha
      obtain ⟨hmem, hne⟩ := List.mem_filter.1 ha
      exact (List.mem_cons.1 (h a hmem)).resolve_left (by simpa using hne)
    have hothers : (keys.flatMap fun j => list.filter (key · = j)) =
        keys.flatMap fun j => (list.filter (key · ≠ k)).filter (key · = j) := by
      refine List.flatMap_congr fun j hj => ?_
      rw [List.filter_filter]
      refine List.filter_congr fun a _ => ?_
      have hjk : j ≠ k := fun heq => hk (heq ▸ hj)
      by_cases ha : key a = j
      · simp [ha, hjk]
      · simp [ha]
    rw [List.flatMap_cons, hothers]
    have hsplit := List.filter_append_perm (fun a => decide (key a = k)) list
    refine List.Perm.trans ((ih hkeys hrest).append_left _) ?_
    simpa using hsplit

theorem mem_select_iff {c : Catalog} {slot : Slot} {rarity : Rarity} {card : Card} :
    card ∈ c.select slot rarity ↔ card ∈ c.toList ∧ card.slot = slot ∧ card.rarity = rarity := by
  simp [select]

theorem starter?_eq_some_iff (c : Catalog) (slot : Slot) (card : Card) :
    c.starter? slot = some card ↔
      (card.slot = slot ∧ card.rarity = .starter) ∧
        ∃ before behind, c.toList = before ++ card :: behind ∧
          ∀ other ∈ before, ¬(other.slot = slot ∧ other.rarity = .starter) := by
  unfold starter? select
  rw [List.head?_filter, List.find?_eq_some_iff_append, decide_eq_true_iff]
  simp only [Bool.not_eq_true', decide_eq_false_iff_not]

theorem starter?_eq_none_iff (c : Catalog) (slot : Slot) :
    c.starter? slot = none ↔ ∀ card ∈ c.toList, ¬(card.slot = slot ∧ card.rarity = .starter) := by
  unfold starter? select
  rw [List.head?_filter, List.find?_eq_none]
  simp only [decide_eq_true_iff]

theorem perm_select (c : Catalog) :
    ((Slot.all ×ˢ Rarity.all).flatMap fun (slot, rarity) => c.select slot rarity).Perm
      c.toList := by
  have hkeys : ∀ card ∈ c.toList, (card.slot, card.rarity) ∈ Slot.all ×ˢ Rarity.all := by
    intro card _
    cases card.slot <;> cases card.rarity <;> decide
  have hperm := perm_flatMap_filter (fun card : Card => (card.slot, card.rarity)) (by decide) hkeys
  have hselect (k : Slot × Rarity) :
      c.toList.filter (fun card => (card.slot, card.rarity) = k) = c.select k.1 k.2 := by
    obtain ⟨slot, rarity⟩ := k
    simp only [Prod.mk.injEq]
    rfl
  simpa only [hselect] using hperm

/-! ## What a loaded catalog holds -/

/-- A catalog of the cards of some entries. -/
structure Holds (c : Catalog) (entries : List Entry) : Prop where
  /-- One card for each entry, in the order of the entries. -/
  cards : c.toList = entries.map Card.ofEntry
  /-- A name finds the card that has it, and there is only one. -/
  named : ∀ name card, c.get? name = some card ↔ card ∈ c.toList ∧ card.name = name
  contains : ∀ name, c.contains name = (c.get? name).isSome
  found : ∀ name card, c.find name = .ok card ↔ c.get? name = some card
  missed : ∀ name fault,
    c.find name = .error fault ↔ c.get? name = none ∧ fault = .unknownCard name
  itself : ∀ card ∈ c.toList, c.get? card.name = some card
  /-- Every card is selected by one slot and rarity, its own. -/
  sorted : ((Slot.all ×ˢ Rarity.all).flatMap fun (slot, rarity) => c.select slot rarity).Perm
    c.toList
  selected : ∀ slot rarity, (c.select slot rarity).Sublist c.toList ∧
    ∀ card ∈ c.select slot rarity, card.slot = slot ∧ card.rarity = rarity
  starter : ∀ slot card, c.starter? slot = some card ↔
    (card.slot = slot ∧ card.rarity = .starter) ∧
      ∃ before behind, c.toList = before ++ card :: behind ∧
        ∀ other ∈ before, ¬(other.slot = slot ∧ other.rarity = .starter)
  unfilled : ∀ slot, c.starter? slot = none ↔
    ∀ card ∈ c.toList, ¬(card.slot = slot ∧ card.rarity = .starter)

theorem holds_ofEntries {c : Catalog} {entries : List Entry} (h : ofEntries entries = .ok c) :
    c.Holds entries where
  cards := toList_ofEntries h
  named _ _ := (indexed_ofEntries h).get?_eq_some_iff
  contains name := by
    rw [Bool.eq_iff_iff, (indexed_ofEntries h).contains_iff, Option.isSome_iff_exists, List.mem_map]
    simp only [(indexed_ofEntries h).get?_eq_some_iff]
  found := c.find_eq_ok_iff
  missed := c.find_eq_error_iff
  itself _ hcard := (indexed_ofEntries h).get?_eq_some_iff.2 ⟨hcard, rfl⟩
  sorted := c.perm_select
  selected _ _ :=
    ⟨List.filter_sublist, fun _ hcard => of_decide_eq_true (List.mem_filter.1 hcard).2⟩
  starter := c.starter?_eq_some_iff
  unfilled := c.starter?_eq_none_iff

/-- Entries are refused if two share a name, for the first of them whose name occurred before.
Otherwise they all have their cards in the catalog. -/
theorem ofEntries_unless_repeated (entries : List Entry) :
    ((∃ c, ofEntries entries = .ok c) ↔ (entries.map (·.name)).Nodup) ∧
      (∀ fault, ofEntries entries = .error fault ↔
        ∃ before e behind, entries = before ++ e :: behind ∧ (before.map (·.name)).Nodup ∧
          e.name ∈ before.map (·.name) ∧ fault = .duplicateCard e.name) ∧
      ∀ c, ofEntries entries = .ok c → c.Holds entries := by
  refine ⟨⟨fun ⟨c, hload⟩ => nodup_of_ofEntries hload, fun hnodup => ?_⟩,
    fun fault => ofEntries_eq_error_iff, fun c => holds_ofEntries⟩
  obtain ⟨c, hload, -⟩ := exists_ofEntries hnodup
  exact ⟨c, hload⟩

/-- Of two starter cards for one hand the first is the one to start with. A third entry with the
name of the first is refused, although its card would be another. -/
theorem ofEntries_unless_repeated_hands :
    let club : Entry := { name := "Club", slot := .mainHand, rarity := .starter, aim := .opponent,
                          description := "Attack for 2" }
    let knife : Entry := { club with name := "Knife", description := "Attack for 1, 2 times" }
    let shield : Entry := { name := "Shield", slot := .offHand, rarity := .common, aim := .nobody,
                            description := "Defend for 2" }
    (∃ c, ofEntries [club, knife, shield] = .ok c ∧
      c.starter? .mainHand = some (Card.ofEntry club) ∧ c.starter? .offHand = none ∧
      c.find "Shield" = .ok (Card.ofEntry shield) ∧ c.find "Axe" = .error (.unknownCard "Axe")) ∧
      ofEntries [club, shield, { knife with name := "Club" }, shield] =
        .error (.duplicateCard "Club") := by
  intro club knife shield
  obtain ⟨hloads, -, hholds⟩ := ofEntries_unless_repeated [club, knife, shield]
  obtain ⟨c, hload⟩ := hloads.2 (by decide)
  have h := hholds c hload
  have hshield : c.get? "Shield" = some (Card.ofEntry shield) :=
    (h.named _ _).2 ⟨by simp [h.cards], rfl⟩
  have haxe : c.get? "Axe" = none := by
    refine Option.eq_none_iff_forall_ne_some.2 fun card hcard => ?_
    obtain ⟨hmem, hname⟩ := (h.named _ _).1 hcard
    have hnames : "Axe" ∈ c.toList.map (·.name) := List.mem_map.2 ⟨card, hmem, hname⟩
    rw [h.cards, map_name_ofEntry] at hnames
    revert hnames
    decide
  refine ⟨⟨c, hload, ?_, ?_, (h.found _ _).2 hshield, (h.missed _ _).2 ⟨haxe, rfl⟩⟩, ?_⟩
  · exact (h.starter _ _).2 ⟨⟨rfl, rfl⟩, [], _, h.cards, List.forall_mem_nil _⟩
  · rw [h.unfilled, h.cards]
    decide
  · exact ((ofEntries_unless_repeated _).2.1 _).2
      ⟨[club, shield], { knife with name := "Club" }, [shield], rfl, by decide, by decide, rfl⟩

end Skirmish.Catalog
