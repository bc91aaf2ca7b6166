import Skirmish.Proofs.Rewards
import Skirmish.Proofs.Rolls

/-!
# A reward for a slot

A draw for a slot rolls a rarity and then takes one of the candidates, at a drawn index. Candidates
are the cards of the slot that have the rolled rarity, and if there are none, all those of the slot
that have a rarity with a weight (`inSlot`). Since a roll takes a rarity with a weight whenever
there is one, no other card gets in, and there are candidates exactly if the slot has a card whose
rarity has a weight (`candidates_eq_nil_iff`).
-/

namespace Skirmish.Rewards

variable {σ : Type} [Chance σ] {r : Rewards} {slot : Slot} {rarity : Rarity} {card : Card}

theorem weights_ne_nil_of_mem_inSlot (h : card ∈ r.inSlot slot) : r.settings.weights ≠ [] := by
  obtain ⟨-, -, hweight⟩ := mem_inSlot_iff.1 h
  rintro hempty
  rw [Settings.hasWeight, hempty] at hweight
  cases hweight

/-- A draw for a slot asks for one number of the unit interval. It then fails exactly if the slot
has no card whose rarity has a weight. Otherwise it asks for one index, and finds the card at this
index among the cards of the rolled rarity, or else among all that have a weight. -/
theorem drawFor_in_slot [LawfulChance σ] (r : Rewards) (slot : Slot) (source : σ) :
    let rarity := r.settings.rarityFor (Chance.unit source).1
    let rolled := r.catalog.select slot rarity
    let choice := if rolled = [] then r.inSlot slot else rolled
    let drawn := r.drawFor slot ({ source } : Recorded σ)
    Recorded.unrecorded drawn = r.drawFor slot source ∧
      (r.settings.weights ≠ [] → r.settings.hasWeight rarity) ∧
      (r.settings.weights = [] → drawn.1 = .error (.noReward slot)) ∧
      (drawn.1 = .error (.noReward slot) ↔
        ∀ card ∈ r.catalog.toList, card.slot = slot → ¬r.settings.hasWeight card.rarity) ∧
      (drawn.1 = .error (.noReward slot) → drawn.2.calls = [.unit]) ∧
      (drawn.1 ≠ .error (.noReward slot) → ∃ card i, drawn.1 = .ok card ∧
        drawn.2.calls = [.unit, .index choice.length i] ∧ choice[i]? = some card ∧
        card ∈ r.catalog.toList ∧ card.slot = slot ∧ r.settings.hasWeight card.rarity ∧
        ((∃ other ∈ r.catalog.toList, other.slot = slot ∧ other.rarity = rarity) →
          card.rarity = rarity)) := by
  intro rarity rolled choice drawn
  refine ⟨r.unrecorded_drawFor slot _, fun h => Settings.hasWeight_rarityFor h _, ?_⟩
  rw [← inSlot_eq_nil_iff]
  by_cases hnil : r.inSlot slot = []
  · have hdrawn : drawn = _ := drawFor_of_nil (candidates_eq_nil_iff.2 hnil)
    rw [hdrawn]
    exact ⟨fun _ => rfl, iff_of_true rfl hnil, fun _ => rfl, fun h => absurd rfl h⟩
  · have hne : r.candidates slot rarity ≠ [] := mt candidates_eq_nil_iff.1 hnil
    let start : Recorded σ := { source }
    obtain ⟨card, hcard, (hdrawn : drawn = _)⟩ := @drawFor_of_ne_nil _ _ r slot _ start _ rfl hne
    have hmem : card ∈ r.candidates slot rarity := List.mem_of_getElem? hcard
    have hslot := mem_inSlot_of_mem_candidates hmem
    have hweight : r.settings.hasWeight rarity :=
      Settings.hasWeight_rarityFor (weights_ne_nil_of_mem_inSlot hslot) _
    have hchoice : r.candidates slot rarity = choice := candidates_of_hasWeight hweight
    obtain ⟨hcatalog, hin, hallowed⟩ := mem_inSlot_iff.1 hslot
    rw [hdrawn]
    refine ⟨fun h => absurd h (weights_ne_nil_of_mem_inSlot hslot), iff_of_false nofun hnil, nofun,
      fun _ => ⟨card, _, rfl, ?_, hchoice ▸ hcard, hcatalog, hin, hallowed, ?_⟩⟩
    · rw [← hchoice]
      rfl
    · rintro ⟨other, hother⟩
      exact rarity_of_mem_candidates hweight hmem (Catalog.mem_select_iff.2 hother)

/-- The roll is past the only weight, and two cards of the slot have none; another slot has no card
with a weight. -/
theorem drawFor_in_slot_past :
    let cup : Entry := { name := "Cup", slot := .drink, rarity := .starter, aim := .nobody,
                         description := "Heal for 1" }
    let wine : Entry := { name := "Wine", slot := .drink, rarity := .common, aim := .nobody,
                          description := "Heal for 2" }
    let elixir : Entry := { name := "Elixir", slot := .drink, rarity := .rare, aim := .nobody,
                            description := "Heal for 9" }
    let source : Script := { indices := #[2], units := #[0.9] }
    ∃ catalog, Catalog.ofEntries [cup, wine, elixir] = .ok catalog ∧
      let r : Rewards := { catalog, settings := { weights := [(.rare, 0.5)] } }
      (r.drawFor .drink source).1 = .ok (Card.ofEntry elixir) ∧
        (r.drawFor .ally source).1 = .error (.noReward .ally) := by
  intro cup wine elixir source
  have hnames : ([cup, wine, elixir].map (·.name)).Nodup := by decide
  obtain ⟨catalog, hload, hcards⟩ := Catalog.exists_ofEntries hnames
  refine ⟨catalog, hload, ?_⟩
  intro r
  have hmem (card : Card) : card ∈ r.catalog.toList ↔
      card = Card.ofEntry cup ∨ card = Card.ofEntry wine ∨ card = Card.ofEntry elixir := by
    show card ∈ catalog.toList ↔ _
    simp [hcards]
  have hweight (rarity : Rarity) : r.settings.hasWeight rarity ↔ rarity = .rare := by
    simp [r, Settings.hasWeight, eq_comm]
  constructor
  · obtain ⟨hplain, -, -, hfails, -, hfinds⟩ := drawFor_in_slot r .drink source
    obtain ⟨card, i, hcard, -, -, hin, -, hrare, -⟩ := hfinds fun hnone =>
      hfails.1 hnone (Card.ofEntry elixir) ((hmem _).2 (.inr (.inr rfl))) rfl ((hweight _).2 rfl)
    obtain rfl : card = Card.ofEntry elixir := by
      rcases (hmem card).1 hin with rfl | rfl | rfl
      · exact absurd ((hweight _).1 hrare) (by decide)
      · exact absurd ((hweight _).1 hrare) (by decide)
      · rfl
    rw [← hplain]
    exact hcard
  · obtain ⟨hplain, -, -, hfails, -⟩ := drawFor_in_slot r .ally source
    rw [← hplain]
    refine hfails.2 fun card hin hslot => ?_
    rcases (hmem card).1 hin with rfl | rfl | rfl <;> cases hslot

end Skirmish.Rewards
