import Skirmish.Chance.Script
import Skirmish.Rewards
import Skirmish.Proofs.Catalog
import Skirmish.Proofs.Chance

/-!
# Rewards drawn at random

A draw for a slot takes one of its candidates. These are cards of the slot whose rarity has a weight
(`inSlot`), and there are some if there is any such card (`candidates_eq_nil_iff`).

Several rewards differ. The picked cards are eligible, have different names, and are never too
many: `Picks` says so, and every accepted card keeps it up. After an eligible card was offered, the
picked cards are enough or one of them has its name. So once all of them were offered, the picked
cards are enough (`length_fill`): otherwise there would be as many names among them as there are
eligible cards.
-/

namespace Skirmish.Rewards

variable {σ : Type} [Chance σ] (r : Rewards)

/-! ## Candidates -/

section

variable {r} {slot : Slot} {rarity : Rarity} {card : Card}

/-- The cards of a slot whose rarity has a weight, in the catalog's order. -/
def inSlot (r : Rewards) (slot : Slot) : List Card :=
  r.catalog.toList.filter fun card => card.slot = slot ∧ r.settings.hasWeight card.rarity

theorem mem_inSlot_iff :
    card ∈ r.inSlot slot ↔
      card ∈ r.catalog.toList ∧ card.slot = slot ∧ r.settings.hasWeight card.rarity := by
  simp [inSlot]

theorem candidates_of_hasWeight (h : r.settings.hasWeight rarity) :
    r.candidates slot rarity =
      if r.catalog.select slot rarity = [] then r.inSlot slot
      else r.catalog.select slot rarity := by
  unfold candidates
  simp only [h, if_true, List.isEmpty_iff]
  rfl

theorem candidates_of_not_hasWeight (h : ¬r.settings.hasWeight rarity) :
    r.candidates slot rarity = r.inSlot slot := by
  unfold candidates
  simp only [h]
  rfl

theorem mem_inSlot_of_mem_candidates (h : card ∈ r.candidates slot rarity) :
    card ∈ r.inSlot slot := by
  by_cases hweight : r.settings.hasWeight rarity
  · rw [candidates_of_hasWeight hweight] at h
    split at h
    · exact h
    · obtain ⟨hmem, hslot, rfl⟩ := Catalog.mem_select_iff.1 h
      exact mem_inSlot_iff.2 ⟨hmem, hslot, hweight⟩
  · rwa [candidates_of_not_hasWeight hweight] at h

/-- A card of the rolled rarity keeps the others out. -/
theorem rarity_of_mem_candidates (hweight : r.settings.hasWeight rarity)
    (h : card ∈ r.candidates slot rarity) {other : Card}
    (hother : other ∈ r.catalog.select slot rarity) : card.rarity = rarity := by
  rw [candidates_of_hasWeight hweight, if_neg (List.ne_nil_of_mem hother)] at h
  exact (Catalog.mem_select_iff.1 h).2.2

theorem candidates_eq_nil_iff : r.candidates slot rarity = [] ↔ r.inSlot slot = [] := by
  constructor
  · intro hnil
    by_cases hweight : r.settings.hasWeight rarity
    · rw [candidates_of_hasWeight hweight] at hnil
      split at hnil
      · exact hnil
      · rename_i hselect
        exact absurd hnil hselect
    · rwa [candidates_of_not_hasWeight hweight] at hnil
  · exact fun hnil => List.eq_nil_iff_forall_not_mem.2 fun card h =>
      List.not_mem_nil (hnil ▸ mem_inSlot_of_mem_candidates h)

theorem inSlot_eq_nil_iff :
    r.inSlot slot = [] ↔
      ∀ card ∈ r.catalog.toList, card.slot = slot → ¬r.settings.hasWeight card.rarity := by
  simp [inSlot]

/-! ## One draw -/

theorem drawFor_of_nil {source : σ}
    (h : r.candidates slot (r.settings.rarityFor (Chance.unit source).1) = []) :
    r.drawFor slot source = (.error (.noReward slot), (Chance.unit source).2) := by
  unfold drawFor drawRarity
  dsimp only
  rw [h]

theorem drawFor_of_ne_nil [LawfulChance σ] {source : σ} {cards : List Card}
    (h : r.candidates slot (r.settings.rarityFor (Chance.unit source).1) = cards)
    (hne : cards ≠ []) :
    ∃ card, cards[(Chance.index cards.length (Chance.unit source).2).1]? = some card ∧
      r.drawFor slot source =
        (.ok card, (Chance.index cards.length (Chance.unit source).2).2) := by
  have hi := LawfulChance.index_lt _ (Chance.unit source).2 (List.length_pos_iff.2 hne)
  refine ⟨_, List.getElem?_eq_getElem hi, ?_⟩
  unfold drawFor drawRarity
  dsimp only
  rw [h]
  split
  · exact absurd rfl hne
  · rw [List.getElem?_eq_getElem hi]

end

/-- A draw finds an allowed card of the catalog, or none. -/
theorem cases_drawFor [LawfulChance σ] (slot : Slot) (source : σ) :
    (∃ card ∈ r.catalog.toList, r.allowed card ∧ (r.drawFor slot source).1 = .ok card) ∨
      (r.drawFor slot source).1 = .error (.noReward slot) := by
  by_cases hnil : r.candidates slot (r.settings.rarityFor (Chance.unit source).1) = []
  · exact .inr (congrArg Prod.fst (drawFor_of_nil hnil))
  · obtain ⟨card, hcard, hdrawn⟩ := drawFor_of_ne_nil rfl hnil
    obtain ⟨hmem, -, hallowed⟩ :=
      mem_inSlot_iff.1 (mem_inSlot_of_mem_candidates (List.mem_of_getElem? hcard))
    exact .inl ⟨card, hmem, hallowed, congrArg Prod.fst hdrawn⟩

theorem cases_draw [LawfulChance σ] (source : σ) :
    (∃ card ∈ r.catalog.toList, r.allowed card ∧ (r.draw source).1 = .ok card) ∨
      ∃ slot, (r.draw source).1 = .error (.noReward slot) := by
  rcases r.cases_drawFor _ (Chance.index Slot.all.length source).2 with h | h
  · exact .inl h
  · exact .inr ⟨_, h⟩

/-! ## Picked cards -/

structure Picks (eligible : List Card) (count : Nat) (picked : List Card) : Prop where
  eligible : ∀ card ∈ picked, card ∈ eligible
  distinct : (picked.map (·.name)).Nodup
  within : picked.length ≤ count

variable {eligible : List Card} {count : Nat} {picked : List Card} {loadout : Loadout}

theorem picks_nil : Picks eligible count [] where
  eligible := List.forall_mem_nil _
  distinct := List.nodup_nil
  within := Nat.zero_le count

theorem accept_of_full {card : Card} (h : count ≤ picked.length) :
    accept count picked card = picked :=
  if_neg fun hjoins => Nat.not_lt.2 h hjoins.1

theorem accept_of_named {card : Card} (h : card.name ∈ picked.map (·.name)) :
    accept count picked card = picked := by
  obtain ⟨twin, htwin, hname⟩ := List.mem_map.1 h
  exact if_neg fun hjoins => hjoins.2 (List.any_eq_true.2 ⟨twin, htwin, decide_eq_true hname⟩)

theorem accept_of_new {card : Card} (hroom : picked.length < count)
    (h : card.name ∉ picked.map (·.name)) : accept count picked card = picked ++ [card] := by
  refine if_pos ⟨hroom, fun hany => h ?_⟩
  obtain ⟨twin, htwin, hname⟩ := List.any_eq_true.1 hany
  exact List.mem_map.2 ⟨twin, htwin, of_decide_eq_true hname⟩

theorem Picks.accept (h : Picks eligible count picked) {card : Card} (hcard : card ∈ eligible) :
    Picks eligible count (accept count picked card) := by
  by_cases hnamed : card.name ∈ picked.map (·.name)
  · rw [accept_of_named hnamed]
    exact h
  · rcases Nat.lt_or_ge picked.length count with hroom | hfull
    · rw [accept_of_new hroom hnamed]
      refine ⟨?_, ?_, ?_⟩
      · exact List.forall_mem_append.2 ⟨h.eligible, List.forall_mem_singleton.2 hcard⟩
      · rw [List.map_append, List.map_singleton, ← List.concat_eq_append]
        exact h.distinct.concat hnamed
      · rw [List.length_append]
        exact hroom
    · rw [accept_of_full hfull]
      exact h

theorem Picks.foldl_accept (h : Picks eligible count picked) {cards : List Card}
    (hcards : ∀ card ∈ cards, card ∈ eligible) :
    Picks eligible count (cards.foldl (Rewards.accept count) picked) := by
  induction cards generalizing picked with
  | nil => exact h
  | cons card cards ih =>
    obtain ⟨hcard, hcards⟩ := List.forall_mem_cons.1 hcards
    exact ih (h.accept hcard) hcards

theorem mem_eligible_iff {card : Card} :
    card ∈ r.eligible loadout ↔
      card ∈ r.catalog.toList ∧ r.allowed card ∧ ¬loadout.equipped card := by
  simp [Rewards.eligible]

theorem Picks.acceptDrawn (h : Picks (r.eligible loadout) count picked) {card : Card}
    (hmem : card ∈ r.catalog.toList) (hallowed : r.allowed card) :
    Picks (r.eligible loadout) count (acceptDrawn loadout count picked card) := by
  unfold Rewards.acceptDrawn
  split
  · exact h
  · rename_i hequipped
    exact h.accept (r.mem_eligible_iff.2 ⟨hmem, hallowed, hequipped⟩)

/-- However often it draws, drawing never fails. -/
theorem Picks.collect [LawfulChance σ] (h : Picks (r.eligible loadout) count picked)
    (attempts : Nat) (source : σ) :
    ∃ collected, (r.collect loadout count attempts picked source).1 = .ok collected ∧
      Picks (r.eligible loadout) count collected := by
  induction attempts generalizing picked source with
  | zero => exact ⟨picked, rfl, h⟩
  | succ attempts ih =>
    unfold Rewards.collect
    split
    · have hdraw := r.cases_draw source
      generalize r.draw source = drawn at hdraw
      obtain ⟨result, source⟩ := drawn
      rcases hdraw with ⟨card, hmem, hallowed, rfl⟩ | ⟨slot, rfl⟩
      · exact ih (h.acceptDrawn r hmem hallowed) source
      · exact ih h source
    · exact ⟨picked, rfl, h⟩

/-! ## Filling up -/

theorem isPrefix_accept (count : Nat) (picked : List Card) (card : Card) :
    picked <+: accept count picked card := by
  unfold accept
  split
  · exact List.prefix_append _ _
  · exact List.prefix_refl _

theorem isPrefix_foldl_accept (count : Nat) (cards picked : List Card) :
    picked <+: cards.foldl (accept count) picked := by
  induction cards generalizing picked with
  | nil => exact List.prefix_refl _
  | cons card cards ih => exact (isPrefix_accept count picked card).trans (ih _)

/-- An offered card joins unless there are enough or one of its name is there. -/
theorem full_or_named (count : Nat) (picked : List Card) (card : Card) :
    count ≤ (accept count picked card).length ∨
      card.name ∈ (accept count picked card).map (·.name) := by
  by_cases hnamed : card.name ∈ picked.map (·.name)
  · rw [accept_of_named hnamed]
    exact .inr hnamed
  · rcases Nat.lt_or_ge picked.length count with hroom | hfull
    · rw [accept_of_new hroom hnamed]
      exact .inr (by simp)
    · rw [accept_of_full hfull]
      exact .inl hfull

theorem full_or_all_named (count : Nat) (cards picked : List Card) :
    count ≤ (cards.foldl (accept count) picked).length ∨
      ∀ card ∈ cards, card.name ∈ (cards.foldl (accept count) picked).map (·.name) := by
  induction cards generalizing picked with
  | nil => exact .inr (List.forall_mem_nil _)
  | cons card cards ih =>
    have hlater := isPrefix_foldl_accept count cards (accept count picked card)
    rcases full_or_named count picked card with hfull | hnamed
    · exact .inl (hfull.trans hlater.length_le)
    · rcases ih (accept count picked card) with hfull | hall
      · exact .inl hfull
      · exact .inr (List.forall_mem_cons.2 ⟨(hlater.map _).subset hnamed, hall⟩)

/-- Offering all eligible cards yields enough, for they have different names. -/
theorem length_fill (hnames : (eligible.map (·.name)).Nodup) (henough : count ≤ eligible.length)
    (h : Picks eligible count picked) :
    (eligible.foldl (accept count) picked).length = count := by
  have hpicks := h.foldl_accept fun card hcard => hcard
  refine Nat.le_antisymm hpicks.within ?_
  rcases full_or_all_named count eligible picked with hfull | hall
  · exact hfull
  · have hsubset : eligible.map (·.name) ⊆
        (eligible.foldl (accept count) picked).map (·.name) := by
      intro name hname
      obtain ⟨card, hcard, rfl⟩ := List.mem_map.1 hname
      exact hall card hcard
    have hle := (hnames.subperm hsubset).length_le
    rw [List.length_map, List.length_map] at hle
    exact henough.trans hle

/-! ## Recorded draws -/

open Recorded (unrecorded)

theorem unrecorded_drawFor (slot : Slot) (s : Recorded σ) :
    unrecorded (r.drawFor slot s) = r.drawFor slot s.source := by
  unfold drawFor drawRarity unrecorded
  dsimp only [Recorded.unit_fst]
  generalize r.candidates slot _ = cards
  cases cards with
  | nil => rfl
  | cons card cards =>
    dsimp only [Recorded.index_fst, Recorded.source_unit]
    cases (card :: cards)[(Chance.index (card :: cards).length (Chance.unit s.source).2).1]? with
    | none => rfl
    | some card => rfl

theorem unrecorded_draw (s : Recorded σ) : unrecorded (r.draw s) = r.draw s.source :=
  r.unrecorded_drawFor _ (Chance.index Slot.all.length s).2

theorem unrecorded_collect (attempts : Nat) (s : Recorded σ) :
    unrecorded (r.collect loadout count attempts picked s) =
      r.collect loadout count attempts picked s.source := by
  induction attempts generalizing picked s with
  | zero => rfl
  | succ attempts ih =>
    unfold collect
    split
    · rw [← r.unrecorded_draw s]
      generalize r.draw s = drawn
      obtain ⟨result, next⟩ := drawn
      cases result with
      | ok card => exact ih next
      | error fault =>
        cases fault with
        | noReward slot => exact ih next
        | _ => rfl
    · rfl

theorem unrecorded_drawDistinct (s : Recorded σ) :
    unrecorded (r.drawDistinct count loadout s) = r.drawDistinct count loadout s.source := by
  unfold drawDistinct
  dsimp only
  split
  · rfl
  · rw [← r.unrecorded_collect]
    rfl

theorem units_drawFor (slot : Slot) (s : Recorded σ) :
    (r.drawFor slot s).2.units = s.units + 1 := by
  unfold drawFor drawRarity
  dsimp only
  split
  · simp
  · split
    · simp
    · simp

/-- One draw asks for one number of the unit interval. -/
theorem units_draw (s : Recorded σ) : (r.draw s).2.units = s.units + 1 := by
  show (r.drawFor _ (Chance.index Slot.all.length s).2).2.units = _
  rw [units_drawFor, Recorded.units_index]

theorem units_collect (attempts : Nat) (s : Recorded σ) :
    (r.collect loadout count attempts picked s).2.units ≤ s.units + attempts := by
  induction attempts generalizing picked s with
  | zero => exact Nat.le_refl _
  | succ attempts ih =>
    unfold collect
    split
    · have hunits := r.units_draw s
      generalize r.draw s = drawn at hunits
      obtain ⟨result, next⟩ := drawn
      have hle {picked : List Card} :
          (r.collect loadout count attempts picked next).2.units ≤ s.units + (attempts + 1) := by
        have := @ih picked next
        dsimp only at hunits
        omega
      cases result with
      | ok card => exact hle
      | error fault =>
        cases fault with
        | noReward slot => exact hle
        | _ => exact hunits.le.trans (by omega)
    · exact Nat.le_add_right _ _

/-! ## The whole draw -/

variable {r}

theorem drawDistinct_of_few {source : σ} (h : (r.eligible loadout).length < count) :
    r.drawDistinct count loadout source =
      (.error (.tooFewRewards count (r.eligible loadout).length), source) :=
  if_pos h

theorem drawDistinct_of_enough {source : σ} (h : count ≤ (r.eligible loadout).length) :
    r.drawDistinct count loadout source =
      ((r.collect loadout count (count * triesPerReward) [] source).1.map
          ((r.eligible loadout).foldl (accept count)),
        (r.collect loadout count (count * triesPerReward) [] source).2) :=
  if_neg (Nat.not_lt.2 h)

theorem eligible_names_nodup (hindexed : r.catalog.Indexed) :
    ((r.eligible loadout).map (·.name)).Nodup :=
  hindexed.names_nodup.sublist (List.filter_sublist.map _)

/-- If there are enough eligible cards, the draw yields as many of them as it was asked for. -/
theorem exists_drawDistinct [LawfulChance σ] (hindexed : r.catalog.Indexed)
    (henough : count ≤ (r.eligible loadout).length) (source : σ) :
    ∃ picked, (r.drawDistinct count loadout source).1 = .ok picked ∧ picked.length = count ∧
      Picks (r.eligible loadout) count picked := by
  obtain ⟨collected, hcollect, hpicks⟩ :=
    (@picks_nil (r.eligible loadout) count).collect r (count * triesPerReward) source
  refine ⟨(r.eligible loadout).foldl (accept count) collected, ?_, ?_, ?_⟩
  · rw [drawDistinct_of_enough henough, hcollect]
    rfl
  · exact length_fill (eligible_names_nodup hindexed) henough hpicks
  · exact hpicks.foldl_accept fun card hcard => hcard

theorem units_drawDistinct (henough : count ≤ (r.eligible loadout).length) (source : σ) :
    (r.drawDistinct count loadout ({ source } : Recorded σ)).2.units ≤ count * triesPerReward := by
  rw [drawDistinct_of_enough henough]
  exact (r.units_collect _ _).trans (Nat.le_of_eq (Nat.zero_add _))

/-- Rewards of a loaded catalog. There are too few if fewer cards are eligible than asked for, and
then nothing is drawn. Otherwise the draw ends with eligible cards of different names, as many as
asked for, whatever the source of chance answers; it was drawn from at most 64 times for each, a
number of the unit interval at a time. -/
theorem drawDistinct_loaded [LawfulChance σ] {entries : List Entry} {catalog : Catalog}
    (hload : Catalog.ofEntries entries = .ok catalog) (hsize : catalog.size < 2 ^ 58)
    (settings : Settings) (loadout : Loadout) (count : Nat) (source : σ) :
    let r : Rewards := { catalog, settings }
    let eligible := r.eligible loadout
    (r.drawDistinct count loadout source =
        (.error (.tooFewRewards count eligible.length), source) ↔ eligible.length < count) ∧
      (count ≤ eligible.length →
        count * triesPerReward < 2 ^ 64 ∧
        ∃ (picked : List Card) (recorded : Recorded σ),
          r.drawDistinct count loadout { source } = (.ok picked, recorded) ∧
          r.drawDistinct count loadout source = (.ok picked, recorded.source) ∧
          recorded.units ≤ count * triesPerReward ∧
          picked.length = count ∧ (∀ card ∈ picked, card ∈ eligible) ∧
          (picked.map (·.name)).Nodup) := by
  intro r eligible
  have hindexed : r.catalog.Indexed := Catalog.indexed_ofEntries hload
  refine ⟨⟨fun hfew => ?_, drawDistinct_of_few⟩, fun henough => ⟨?_, ?_⟩⟩
  · by_contra hnot
    obtain ⟨picked, hpicked, -⟩ := exists_drawDistinct hindexed (Nat.not_lt.1 hnot) source
    rw [hfew] at hpicked
    cases hpicked
  · have heligible : eligible.length ≤ catalog.size := by
      have hle : eligible.length ≤ catalog.toList.length := List.length_filter_le _ _
      simpa [Catalog.toList, Catalog.size] using hle
    unfold triesPerReward
    omega
  · let recorded := r.drawDistinct count loadout ({ source } : Recorded σ)
    obtain ⟨picked, hpicked, hlength, hpicks⟩ :=
      exists_drawDistinct hindexed henough ({ source } : Recorded σ)
    have hrecorded : recorded = (.ok picked, recorded.2) := Prod.ext hpicked rfl
    have hplain : Recorded.unrecorded recorded = r.drawDistinct count loadout source :=
      r.unrecorded_drawDistinct _
    refine ⟨picked, recorded.2, hrecorded, ?_, units_drawDistinct henough source, hlength,
      hpicks.eligible, hpicks.distinct⟩
    rw [← hplain, hrecorded]
    rfl

/-- Two rewards are drawn although the script always answers zero. -/
theorem drawDistinct_loaded_pair :
    let club : Entry := { name := "Club", slot := .mainHand, rarity := .common, aim := .opponent,
                          description := "Attack for 2" }
    let shield : Entry := { name := "Shield", slot := .offHand, rarity := .rare, aim := .nobody,
                            description := "Defend for 2" }
    ∃ catalog, Catalog.ofEntries [club, shield] = .ok catalog ∧ catalog.size < 2 ^ 58 ∧
      2 ≤ (({ catalog, settings := {} } : Rewards).eligible {}).length ∧
      ∃ picked, (({ catalog, settings := {} } : Rewards).drawDistinct 2 {} ({} : Script)).1 =
        .ok picked ∧ picked.length = 2 ∧ (picked.map (·.name)).Nodup := by
  intro club shield
  have hload : Catalog.ofEntries [club, shield] =
      .ok { cards := #[Card.ofEntry club, Card.ofEntry shield]
            places := (({} : Std.HashMap String Nat).insert "Club" 0).insert "Shield" 1 } := by
    simp [Catalog.ofEntries, Catalog.add, club, shield, bind, Except.bind, pure, Except.pure]
  have hsize : 2 < 2 ^ 58 := by decide
  obtain ⟨picked, recorded, -, hplain, -, hlength, -, hdistinct⟩ :=
    ((drawDistinct_loaded hload hsize {} {} 2 ({} : Script)).2 (Nat.le_refl 2)).2
  exact ⟨_, hload, hsize, Nat.le_refl 2, picked, congrArg Prod.fst hplain, hlength, hdistinct⟩

end Skirmish.Rewards
