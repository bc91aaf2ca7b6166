import Skirmish.Proofs.Catalog
import Skirmish.Rewards

/-!
# Loadouts through changes

A slot holds what the last change left in it: the last card equipped there since the last reset, or
else what there was before (`nameIn_changed`). All names of such a loadout are those of cards of the
catalog in their own slots (`Stocked`), and names find their cards. So `wornIn`, the card that a
slot names, pairs the occupied slots with the equipped cards of the catalog, and the cards that may
be rewards are those of the catalog less the worn ones.
-/

namespace Skirmish.Loadout

/-! ## Changes -/

inductive Change where
  | equip (card : Card)
  /-- Back to the starter cards. -/
  | reset
  deriving DecidableEq, Repr

def change (c : Catalog) (l : Loadout) : Change → Loadout
  | .equip card => l.equip card
  | .reset => starter c

def changed (c : Catalog) (l : Loadout) (changes : List Change) : Loadout :=
  changes.foldl (change c) l

/-- The cards equipped since the last reset, in order. -/
def sinceReset : List Change → List Card
  | [] => []
  | .equip card :: changes =>
    if .reset ∈ changes then sinceReset changes else card :: sinceReset changes
  | .reset :: changes => sinceReset changes

variable {c : Catalog} {l : Loadout} {slot : Slot}

theorem nameIn_changed (c : Catalog) (l : Loadout) (changes : List Change) (slot : Slot) :
    (l.changed c changes).nameIn slot =
      match ((sinceReset changes).filter (·.slot = slot)).getLast? with
      | some card => some card.name
      | none => (if .reset ∈ changes then starter c else l).nameIn slot := by
  induction changes generalizing l with
  | nil => rfl
  | cons first changes ih =>
    have hfirst : l.changed c (first :: changes) = (l.change c first).changed c changes := rfl
    rw [hfirst, ih]
    by_cases hreset : .reset ∈ changes
    · -- A later reset leaves nothing of the first change.
      cases first <;> simp [sinceReset, hreset]
    · cases first with
      | reset => simp [sinceReset, hreset, change]
      | equip card =>
        simp only [sinceReset, hreset, if_false, change, List.mem_cons, reduceCtorEq, false_or,
          nameIn_equip, List.filter_cons]
        by_cases hslot : card.slot = slot
        · simp only [hslot, decide_true, if_true, List.getLast?_cons]
          cases ((sinceReset changes).filter (·.slot = slot)).getLast? <;> rfl
        · simp only [hslot, decide_false, Bool.false_eq_true, if_false]

/-! ## Names of a catalog -/

/-- Every name in the loadout is that of a card of the catalog, in its own slot. -/
def Stocked (c : Catalog) (l : Loadout) : Prop :=
  ∀ slot name, l.nameIn slot = some name → ∃ card ∈ c.toList, card.slot = slot ∧ card.name = name

theorem nameIn_empty (slot : Slot) : ({} : Loadout).nameIn slot = none := by
  simp [nameIn]

theorem stocked_empty (c : Catalog) : Stocked c {} := by
  intro slot name h
  rw [nameIn_empty] at h
  cases h

theorem stocked_starter (c : Catalog) : Stocked c (starter c) := by
  intro slot name h
  rw [nameIn_starter] at h
  obtain ⟨card, hstarter, hname⟩ := Option.map_eq_some_iff.1 h
  obtain ⟨⟨hslot, -⟩, before, behind, hcards, -⟩ := (c.starter?_eq_some_iff slot card).1 hstarter
  exact ⟨card, by simp [hcards], hslot, hname⟩

theorem Stocked.equip (h : Stocked c l) {card : Card} (hcard : card ∈ c.toList) :
    Stocked c (l.equip card) := by
  intro slot name hname
  rw [nameIn_equip] at hname
  split at hname
  · rename_i hslot
    exact ⟨card, hcard, hslot, Option.some.inj hname⟩
  · exact h slot name hname

theorem Stocked.changed (h : Stocked c l) {changes : List Change}
    (hchanges : ∀ card, .equip card ∈ changes → card ∈ c.toList) :
    Stocked c (l.changed c changes) := by
  induction changes generalizing l with
  | nil => exact h
  | cons first changes ih =>
    have hrest := fun card hmem => hchanges card (List.mem_cons_of_mem first hmem)
    cases first with
    | equip card => exact ih (h.equip (hchanges card List.mem_cons_self)) hrest
    | reset => exact ih (stocked_starter c) hrest

/-! ## Worn cards -/

/-- The card of the catalog that a slot names. -/
def wornIn (c : Catalog) (l : Loadout) (slot : Slot) : Option Card :=
  (l.nameIn slot).bind c.get?

theorem equipped_iff {card : Card} :
    l.equipped card ↔ l.nameIn card.slot = some card.name := by
  unfold equipped
  exact beq_iff_eq

theorem Stocked.wornIn_eq_some_iff (h : Stocked c l) (hc : c.Indexed) {card : Card} :
    l.wornIn c slot = some card ↔ card ∈ c.toList ∧ card.slot = slot ∧ l.equipped card := by
  unfold wornIn
  rw [Option.bind_eq_some_iff, equipped_iff]
  constructor
  · rintro ⟨name, hname, hget⟩
    obtain ⟨twin, htwin, hslot, hsame⟩ := h slot name hname
    obtain rfl : twin = card :=
      Option.some.inj ((hc.get?_eq_some_iff.2 ⟨htwin, hsame⟩).symm.trans hget)
    exact ⟨htwin, hslot, by rw [hslot, hname, hsame]⟩
  · rintro ⟨hmem, rfl, hname⟩
    exact ⟨card.name, hname, hc.get?_eq_some_iff.2 ⟨hmem, rfl⟩⟩

theorem Stocked.exists_wornIn (h : Stocked c l) (hc : c.Indexed)
    (hslot : (l.nameIn slot).isSome) : ∃ card, l.wornIn c slot = some card := by
  obtain ⟨name, hname⟩ := Option.isSome_iff_exists.1 hslot
  obtain ⟨card, hmem, rfl, rfl⟩ := h slot name hname
  exact ⟨card, (h.wornIn_eq_some_iff hc).2 ⟨hmem, rfl, equipped_iff.2 hname⟩⟩

theorem map_fst_toList (l : Loadout) :
    l.toList.map (·.1) = Slot.all.filter fun slot => (l.nameIn slot).isSome := by
  unfold toList
  rw [List.map_filterMap, ← List.filterMap_eq_filter]
  refine List.filterMap_congr fun slot _ => ?_
  cases h : l.nameIn slot <;> simp [Option.guard, h]

theorem Stocked.bijOn_wornIn (h : Stocked c l) (hc : c.Indexed) :
    Set.BijOn (l.wornIn c) {slot | slot ∈ l.toList.map (·.1)}
      (some '' {card | card ∈ c.toList ∧ l.equipped card}) := by
  have hoccupied (slot : Slot) : slot ∈ l.toList.map (·.1) ↔ (l.nameIn slot).isSome := by
    rw [map_fst_toList, List.mem_filter]
    exact and_iff_right slot.mem_all
  refine ⟨fun slot hslot => ?_, fun slot hslot other _ heq => ?_, ?_⟩
  · obtain ⟨card, hworn⟩ := h.exists_wornIn hc ((hoccupied slot).1 hslot)
    obtain ⟨hmem, -, hequipped⟩ := (h.wornIn_eq_some_iff hc).1 hworn
    exact ⟨card, ⟨hmem, hequipped⟩, hworn.symm⟩
  · -- One card has one slot.
    obtain ⟨card, hworn⟩ := h.exists_wornIn hc ((hoccupied slot).1 hslot)
    obtain ⟨-, rfl, -⟩ := (h.wornIn_eq_some_iff hc).1 hworn
    exact ((h.wornIn_eq_some_iff hc).1 (heq.symm.trans hworn)).2.1
  · rintro _ ⟨card, ⟨hmem, hequipped⟩, rfl⟩
    refine ⟨card.slot, (hoccupied card.slot).2 ?_, ?_⟩
    · rw [equipped_iff.1 hequipped]
      rfl
    · exact (h.wornIn_eq_some_iff hc).2 ⟨hmem, rfl, hequipped⟩

theorem Stocked.perm_worn (h : Stocked c l) (hc : c.Indexed) :
    (Slot.all.filterMap (l.wornIn c)).Perm (c.toList.filter l.equipped) := by
  have hslots : (Slot.all.filterMap (l.wornIn c)).Nodup := by
    refine List.Nodup.filterMap (fun slot other card hslot hother => ?_) (by decide)
    obtain ⟨-, rfl, -⟩ := (h.wornIn_eq_some_iff hc).1 hslot
    exact ((h.wornIn_eq_some_iff hc).1 hother).2.1
  have hcards : (c.toList.filter l.equipped).Nodup := (List.Nodup.of_map _ hc.names_nodup).filter _
  refine (List.perm_ext_iff_of_nodup hslots hcards).2 fun card => ?_
  simp only [List.mem_filterMap, List.mem_filter, h.wornIn_eq_some_iff hc]
  constructor
  · rintro ⟨slot, -, hmem, -, hequipped⟩
    exact ⟨hmem, hequipped⟩
  · rintro ⟨hmem, hequipped⟩
    exact ⟨card.slot, card.slot.mem_all, hmem, rfl, hequipped⟩

/-! ## Eligible cards -/

theorem countP_toList (l : Loadout) (c : Catalog) (p : Card → Bool) :
    l.toList.countP (fun (_, name) => (c.get? name).any p) =
      (Slot.all.filterMap (l.wornIn c)).countP p := by
  unfold toList
  rw [List.countP_filterMap, List.countP_filterMap]
  refine List.countP_congr fun slot _ => ?_
  unfold wornIn
  cases l.nameIn slot with
  | none => rfl
  | some name => cases h : c.get? name <;> simp [h]

/-- A card that may be a reward at all may be one now, or is worn. -/
theorem Stocked.length_eligible (h : Stocked c l) (hc : c.Indexed) (settings : Settings) :
    let r : Rewards := { catalog := c, settings }
    (r.eligible l).length + l.toList.countP (fun (_, name) => (c.get? name).any r.allowed) =
      (c.toList.filter r.allowed).length := by
  intro r
  have heligible : r.eligible l = (c.toList.filter (!l.equipped ·)).filter r.allowed := by
    unfold Rewards.eligible
    rw [List.filter_filter]
    refine List.filter_congr fun card _ => ?_
    simp
  rw [heligible, ← List.countP_eq_length_filter, ← List.countP_eq_length_filter, countP_toList,
    (h.perm_worn hc).countP_eq, Nat.add_comm]
  exact (List.countP_eq_countP_filter_add _ _ _).symm

/-- A loadout that began empty, or with the starter cards, and went through any changes. Each slot
has the name of the last card equipped there since the last reset, or else the name of its starter
card if there was a reset or the loadout began with them, or else none. So the occupied slots, in
order, correspond one to one to the equipped cards of the catalog, and these are missing from the
cards that may be rewards. -/
theorem nameIn_last_change {entries : List Entry} (hload : Catalog.ofEntries entries = .ok c)
    {start : Loadout} (hstart : start = {} ∨ start = starter c) (changes : List Change)
    (hchanges : ∀ card, .equip card ∈ changes → card ∈ c.toList) :
    let l := start.changed c changes
    (∀ slot, l.nameIn slot =
      match ((sinceReset changes).filter (·.slot = slot)).getLast? with
      | some card => some card.name
      | none =>
        if .reset ∈ changes ∨ start = starter c then (c.starter? slot).map (·.name) else none) ∧
      (∀ slot name, l.nameIn slot = some name →
        ∃ card ∈ c.toList, card.slot = slot ∧ card.name = name) ∧
      l.toList.map (·.1) = Slot.all.filter (fun slot => (l.nameIn slot).isSome) ∧
      Set.BijOn (fun slot => (l.nameIn slot).bind c.get?) {slot | slot ∈ l.toList.map (·.1)}
        (some '' {card | card ∈ c.toList ∧ l.equipped card}) ∧
      ∀ settings : Settings,
        let r : Rewards := { catalog := c, settings }
        (r.eligible l).length + l.toList.countP (fun (_, name) => (c.get? name).any r.allowed) =
          (c.toList.filter r.allowed).length := by
  intro l
  have hc : c.Indexed := Catalog.indexed_ofEntries hload
  have hstocked : Stocked c l := by
    refine Stocked.changed ?_ hchanges
    rcases hstart with rfl | rfl
    · exact stocked_empty c
    · exact stocked_starter c
  refine ⟨fun slot => ?_, hstocked, map_fst_toList l, hstocked.bijOn_wornIn hc,
    hstocked.length_eligible hc⟩
  have hheld : (if .reset ∈ changes then starter c else start).nameIn slot =
      if .reset ∈ changes ∨ start = starter c then (c.starter? slot).map (·.name) else none := by
    by_cases hreset : .reset ∈ changes
    · rw [if_pos hreset, if_pos (.inl hreset), nameIn_starter]
    · rw [if_neg hreset]
      by_cases hstarter : start = starter c
      · rw [if_pos (.inr hstarter), hstarter, nameIn_starter]
      · rw [if_neg (not_or.2 ⟨hreset, hstarter⟩), hstart.resolve_right hstarter, nameIn_empty]
  rw [nameIn_changed, hheld]

/-- The axe was equipped before the reset, so the club is back in the main hand. -/
theorem nameIn_last_change_reset :
    let club : Entry := { name := "Club", slot := .mainHand, rarity := .starter, aim := .opponent,
                          description := "Attack for 2" }
    let axe : Entry := { club with name := "Axe", rarity := .rare }
    let shield : Entry := { name := "Shield", slot := .offHand, rarity := .common, aim := .nobody,
                            description := "Defend for 2" }
    let changes : List Change := [.equip (.ofEntry axe), .reset, .equip (.ofEntry shield)]
    ∃ c, Catalog.ofEntries [club, axe, shield] = .ok c ∧
      (∀ card, .equip card ∈ changes → card ∈ c.toList) ∧
      let l := ({} : Loadout).changed c changes
      let r : Rewards := { catalog := c, settings := {} }
      l.nameIn .mainHand = some "Club" ∧ l.nameIn .offHand = some "Shield" ∧
        (r.eligible l).length + l.toList.countP (fun (_, name) => (c.get? name).any r.allowed) =
          2 := by
  intro club axe shield changes
  obtain ⟨c, hload, hcards⟩ := @Catalog.exists_ofEntries [club, axe, shield] (by decide)
  have hchanges : ∀ card, .equip card ∈ changes → card ∈ c.toList := by
    intro card hmem
    rw [hcards]
    have hequipped : card = .ofEntry axe ∨ card = .ofEntry shield := by
      simpa [changes] using hmem
    rcases hequipped with rfl | rfl <;> simp
  obtain ⟨hnames, -, -, -, hcount⟩ := nameIn_last_change hload (.inl rfl) changes hchanges
  have hequipped : sinceReset changes = [.ofEntry shield] := by
    simp [changes, sinceReset]
  have hclub : c.starter? .mainHand = some (.ofEntry club) :=
    (c.starter?_eq_some_iff _ _).2 ⟨⟨rfl, rfl⟩, [], _, hcards, List.forall_mem_nil _⟩
  refine ⟨c, hload, hchanges, ?_, ?_, ?_⟩
  · rw [hnames, hequipped, hclub]
    rfl
  · rw [hnames, hequipped]
    rfl
  · rw [hcount, hcards]
    rfl

end Skirmish.Loadout
