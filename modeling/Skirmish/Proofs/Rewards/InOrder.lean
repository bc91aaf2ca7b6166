import Skirmish.Proofs.Rewards.Single

/-!
# The order of different rewards

What several rewards are is decided by the outcomes of single draws, one after the other (`draws`).
The eligible cards among them count, each when it first appears (`firsts`); the drawing ends as soon
as there are enough of those, or when the attempts are spent (`Spent`). Whatever is missing then
comes from the eligible cards that have not appeared, in their order.

The loop keeps this up draw by draw: an accepted card is a first appearance, and any other outcome
leaves the picked cards as they were (`acceptDrawn_firsts`). Filling up is one filter of the
eligible cards (`foldl_accept_eq`), since no two of them share a name.
-/

namespace Skirmish.Rewards

variable {σ : Type} [Chance σ] {r : Rewards} {loadout : Loadout} {count : Nat}
  {eligible picked : List Card}

/-! ## Outcomes -/

/-- The outcomes of a number of draws, and the source behind them. -/
def draws (r : Rewards) : Nat → σ → List (Except Fault Card) × σ
  | 0, source => ([], source)
  | n + 1, source =>
    let (outcomes, source) := r.draws n source
    let (outcome, source) := r.draw source
    (outcomes ++ [outcome], source)

theorem length_draws (n : Nat) (source : σ) : (r.draws n source).1.length = n := by
  induction n with
  | zero => rfl
  | succ n ih => simp [draws, ih]

/-- Fewer draws have the same outcomes. -/
theorem take_draws {m n : Nat} (h : m ≤ n) (source : σ) :
    (r.draws n source).1.take m = (r.draws m source).1 := by
  induction n with
  | zero =>
    obtain rfl := Nat.le_zero.1 h
    rfl
  | succ n ih =>
    rcases Nat.lt_or_eq_of_le h with hlt | rfl
    · have hle := Nat.le_of_lt_succ hlt
      have hlength : m ≤ (r.draws n source).1.length := by rwa [length_draws]
      rw [draws, List.take_append_of_le_length hlength, ih hle]
    · exact List.take_of_length_le (Nat.le_of_eq (length_draws _ source))

/-- A source that a draw leaves as it was gives the same outcome again. -/
theorem draws_of_stuck {source : σ} {outcome : Except Fault Card}
    (h : r.draw source = (outcome, source)) (n : Nat) :
    r.draws n source = (List.replicate n outcome, source) := by
  induction n with
  | zero => rfl
  | succ n ih => simp [draws, ih, h, List.replicate_succ']

/-! ## First appearances -/

/-- The eligible cards among some outcomes, each where it first appears. -/
def firsts (eligible : List Card) (outcomes : List (Except Fault Card)) : List Card :=
  ((outcomes.filterMap Except.toOption).filter (· ∈ eligible)).eraseDups

theorem mem_of_mem_firsts {outcomes : List (Except Fault Card)} {card : Card}
    (h : card ∈ firsts eligible outcomes) : card ∈ eligible := by
  simpa using (List.mem_filter.1 (List.mem_eraseDups.1 h)).2

theorem firsts_append_error (outcomes : List (Except Fault Card)) (fault : Fault) :
    firsts eligible (outcomes ++ [.error fault]) = firsts eligible outcomes := by
  unfold firsts
  rw [List.filterMap_append, List.filterMap_cons_none rfl, List.filterMap_nil, List.append_nil]

theorem eraseDups_concat (cards : List Card) (card : Card) :
    (cards ++ [card]).eraseDups =
      if card ∈ cards then cards.eraseDups else cards.eraseDups ++ [card] := by
  rw [List.eraseDups_append]
  by_cases h : card ∈ cards
  · simp [List.removeAll, h]
  · simp [List.removeAll, h, List.eraseDups_cons]

theorem firsts_append_ok (outcomes : List (Except Fault Card)) (card : Card) :
    firsts eligible (outcomes ++ [.ok card]) =
      if card ∈ eligible ∧ card ∉ firsts eligible outcomes then
        firsts eligible outcomes ++ [card]
      else firsts eligible outcomes := by
  have hcard : (Except.ok card : Except Fault Card).toOption = some card := rfl
  unfold firsts
  rw [List.filterMap_append, List.filterMap_cons_some hcard, List.filterMap_nil,
    List.filter_append]
  generalize (outcomes.filterMap Except.toOption).filter (· ∈ eligible) = before
  by_cases heligible : card ∈ eligible
  · simp [heligible, eraseDups_concat, List.mem_eraseDups]
  · simp [heligible]

theorem firsts_replicate {card : Card} (h : card ∈ eligible) (n : Nat) :
    firsts eligible (List.replicate (n + 1) (.ok card)) = [card] := by
  induction n with
  | zero =>
    show firsts eligible ([] ++ [.ok card]) = [card]
    rw [firsts_append_ok]
    simp [h, firsts]
  | succ n ih =>
    rw [List.replicate_succ', firsts_append_ok, ih]
    simp

/-! ## The loop -/

/-- How many attempts the drawing takes: it goes on while the first appearances are too few, and
ends when they are enough or the attempts are spent. -/
structure Spent (eligible : List Card) (count attempts : Nat)
    (outcomes : Nat → List (Except Fault Card)) (n : Nat) : Prop where
  within : n ≤ attempts
  short : ∀ m < n, (firsts eligible (outcomes m)).length < count
  ends : n = attempts ∨ (firsts eligible (outcomes n)).length = count

/-- Outcomes that agree so far are spent alike. -/
theorem Spent.unique {attempts : Nat} {outcomes others : Nat → List (Except Fault Card)}
    {m n : Nat} (hm : Spent eligible count attempts others m)
    (hn : Spent eligible count attempts outcomes n)
    (h : ∀ k ≤ n, others k = outcomes k) : m = n := by
  -- The one that ends first ends where the other is still short.
  rcases Nat.lt_trichotomy m n with hlt | heq | hgt
  · have hshort := hn.short m hlt
    have hwithin := hn.within
    rcases hm.ends with hspent | henough
    · omega
    · rw [h m hlt.le] at henough
      omega
  · exact heq
  · have hshort := hm.short n hgt
    have hwithin := hm.within
    rw [h n (Nat.le_refl n)] at hshort
    rcases hn.ends with hspent | henough <;> omega

/-- An outcome that does not count: no card, an equipped one, or one of a picked name. -/
def Idle (loadout : Loadout) (picked : List Card) : Except Fault Card → Prop
  | .error _ => True
  | .ok card => loadout.equipped card ∨ card.name ∈ picked.map (·.name)

theorem acceptDrawn_of_idle {card : Card} (h : Idle loadout picked (.ok card)) :
    acceptDrawn loadout count picked card = picked := by
  unfold acceptDrawn
  split
  · rfl
  · rename_i hequipped
    exact accept_of_named (h.resolve_left hequipped)

/-- Such an outcome costs its attempt and nothing else. -/
theorem collect_of_idle [LawfulChance σ] {source : σ} (attempts : Nat)
    (hroom : picked.length < count) (h : Idle loadout picked (r.draw source).1) :
    r.collect loadout count (attempts + 1) picked source =
      r.collect loadout count attempts picked (r.draw source).2 := by
  have hdraw := r.cases_draw source
  rw [collect, if_pos hroom]
  generalize r.draw source = drawn at h hdraw
  obtain ⟨outcome, next⟩ := drawn
  rcases hdraw with ⟨card, -, -, rfl⟩ | ⟨slot, rfl⟩
  · dsimp only
    rw [acceptDrawn_of_idle h]
  · rfl

/-- Among eligible cards a name tells whether a card was picked. -/
theorem name_mem_iff (hnames : (eligible.map (·.name)).Nodup)
    (hpicked : ∀ card ∈ picked, card ∈ eligible) {card : Card} (hcard : card ∈ eligible) :
    card.name ∈ picked.map (·.name) ↔ card ∈ picked := by
  constructor
  · intro h
    obtain ⟨twin, htwin, hname⟩ := List.mem_map.1 h
    obtain rfl := List.inj_on_of_nodup_map hnames (hpicked twin htwin) hcard hname
    exact htwin
  · exact List.mem_map_of_mem

/-- Whatever is drawn, the first appearances so far become those with the new outcome. -/
theorem acceptDrawn_firsts (hnames : ((r.eligible loadout).map (·.name)).Nodup)
    {outcomes : List (Except Fault Card)} {card : Card} (hmem : card ∈ r.catalog.toList)
    (hallowed : r.allowed card) (hroom : (firsts (r.eligible loadout) outcomes).length < count) :
    acceptDrawn loadout count (firsts (r.eligible loadout) outcomes) card =
      firsts (r.eligible loadout) (outcomes ++ [.ok card]) := by
  rw [firsts_append_ok]
  by_cases hequipped : loadout.equipped card
  · have hnot : card ∉ r.eligible loadout := fun h => (r.mem_eligible_iff.1 h).2.2 hequipped
    rw [acceptDrawn_of_idle (.inl hequipped), if_neg fun h => hnot h.1]
  · have hcard := r.mem_eligible_iff.2 ⟨hmem, hallowed, hequipped⟩
    have hname := name_mem_iff hnames (fun _ => @mem_of_mem_firsts _ outcomes _) hcard
    by_cases hfirst : card ∈ firsts (r.eligible loadout) outcomes
    · rw [acceptDrawn_of_idle (.inr (hname.2 hfirst)), if_neg fun h => h.2 hfirst]
    · rw [acceptDrawn, if_neg hequipped, accept_of_new hroom (mt hname.1 hfirst),
        if_pos ⟨hcard, hfirst⟩]

theorem collect_firsts [LawfulChance σ] (hnames : ((r.eligible loadout).map (·.name)).Nodup)
    {outcomes : List (Except Fault Card)} (attempts : Nat) (source : σ)
    (hroom : (firsts (r.eligible loadout) outcomes).length < count) :
    r.collect loadout count (attempts + 1) (firsts (r.eligible loadout) outcomes) source =
      r.collect loadout count attempts
        (firsts (r.eligible loadout) (outcomes ++ [(r.draw source).1])) (r.draw source).2 := by
  have hdraw := r.cases_draw source
  rw [collect, if_pos hroom]
  generalize r.draw source = drawn at hdraw
  obtain ⟨outcome, next⟩ := drawn
  rcases hdraw with ⟨card, hmem, hallowed, rfl⟩ | ⟨slot, rfl⟩
  · dsimp only
    rw [acceptDrawn_firsts hnames hmem hallowed hroom]
  · dsimp only
    rw [firsts_append_error]

theorem length_firsts_append_le (outcomes : List (Except Fault Card))
    (outcome : Except Fault Card) :
    (firsts eligible (outcomes ++ [outcome])).length ≤ (firsts eligible outcomes).length + 1 := by
  cases outcome with
  | error fault =>
    rw [firsts_append_error]
    exact Nat.le_succ _
  | ok card =>
    rw [firsts_append_ok]
    split <;> simp

/-- From any draw on, the loop ends with the first appearances among the outcomes it took. -/
theorem collect_draws [LawfulChance σ] (hnames : ((r.eligible loadout).map (·.name)).Nodup)
    (source : σ) (attempts m : Nat)
    (hshort : ∀ k < m, (firsts (r.eligible loadout) (r.draws k source).1).length < count)
    (hle : (firsts (r.eligible loadout) (r.draws m source).1).length ≤ count) :
    ∃ n, Spent (r.eligible loadout) count (m + attempts) (fun k => (r.draws k source).1) n ∧
      r.collect loadout count attempts (firsts (r.eligible loadout) (r.draws m source).1)
          (r.draws m source).2 =
        (.ok (firsts (r.eligible loadout) (r.draws n source).1), (r.draws n source).2) := by
  -- On the attempts that are left; every draw moves one of them over to `m`.
  induction attempts generalizing m with
  | zero => exact ⟨m, ⟨Nat.le_refl m, hshort, .inl rfl⟩, rfl⟩
  | succ attempts ih =>
    rcases Nat.lt_or_eq_of_le hle with hroom | hfull
    · have hnext : ∀ k < m + 1,
          (firsts (r.eligible loadout) (r.draws k source).1).length < count := by
        intro k hk
        rcases Nat.lt_succ_iff_lt_or_eq.1 hk with hlt | rfl
        · exact hshort k hlt
        · exact hroom
      obtain ⟨n, hspent, hcollect⟩ :=
        ih (m + 1) hnext ((length_firsts_append_le _ _).trans hroom)
      refine ⟨n, Nat.add_right_comm m 1 attempts ▸ hspent, ?_⟩
      rw [collect_firsts hnames attempts _ hroom]
      exact hcollect
    · refine ⟨m, ⟨Nat.le_add_right m _, hshort, .inr hfull⟩, ?_⟩
      rw [collect, if_neg (Nat.not_lt.2 hfull.ge)]

/-! ## Filling up -/

theorem foldl_accept_eq (count : Nat) {cards : List Card} (hnames : (cards.map (·.name)).Nodup)
    (picked : List Card) :
    cards.foldl (accept count) picked =
      picked ++ (cards.filter (·.name ∉ picked.map (·.name))).take (count - picked.length) := by
  induction cards generalizing picked with
  | nil => simp
  | cons card cards ih =>
    obtain ⟨hnew, hnames⟩ := List.nodup_cons.1 hnames
    rw [List.foldl_cons, ih hnames]
    by_cases hnamed : card.name ∈ picked.map (·.name)
    · rw [accept_of_named hnamed, List.filter_cons_of_neg (by simpa using hnamed)]
    · rw [List.filter_cons_of_pos (by simpa using hnamed)]
      by_cases hroom : picked.length < count
      · have hothers : cards.filter (·.name ∉ (picked ++ [card]).map (·.name)) =
            cards.filter (·.name ∉ picked.map (·.name)) := by
          refine List.filter_congr fun other hother => ?_
          have hne : other.name ≠ card.name := fun h =>
            hnew (List.mem_map.2 ⟨other, hother, h⟩)
          simp [hne]
        have hcount : count - picked.length = count - (picked ++ [card]).length + 1 := by
          rw [List.length_append, List.length_singleton]
          omega
        rw [accept_of_new hroom hnamed, hothers, hcount, List.take_succ_cons, List.append_assoc]
        rfl
      · have hcount : count - picked.length = 0 := by omega
        rw [accept_of_full (Nat.not_lt.1 hroom), hcount, List.take_zero, List.take_zero]

/-- The rewards for the outcomes of the draws: the first appearances among them, and after those
the eligible cards that are missing, in their order. -/
def rewarded (eligible : List Card) (count : Nat) (outcomes : List (Except Fault Card)) :
    List Card :=
  firsts eligible outcomes ++
    (eligible.filter (· ∉ firsts eligible outcomes)).take
      (count - (firsts eligible outcomes).length)

theorem foldl_accept_firsts (hnames : (eligible.map (·.name)).Nodup)
    (outcomes : List (Except Fault Card)) :
    eligible.foldl (accept count) (firsts eligible outcomes) =
      rewarded eligible count outcomes := by
  have hmissing : eligible.filter (·.name ∉ (firsts eligible outcomes).map (·.name)) =
      eligible.filter (· ∉ firsts eligible outcomes) := by
    refine List.filter_congr fun card hcard => decide_eq_decide.2 (not_congr ?_)
    exact name_mem_iff hnames (fun _ => mem_of_mem_firsts) hcard
  rw [foldl_accept_eq count hnames, hmissing]
  rfl

/-! ## The whole draw -/

theorem drawDistinct_draws [LawfulChance σ] (hindexed : r.catalog.Indexed)
    (henough : count ≤ (r.eligible loadout).length) (source : σ) :
    ∃ n, Spent (r.eligible loadout) count (count * triesPerReward)
        (fun k => (r.draws k source).1) n ∧
      r.drawDistinct count loadout source =
        (.ok (rewarded (r.eligible loadout) count (r.draws n source).1), (r.draws n source).2) := by
  have hnames : ((r.eligible loadout).map (·.name)).Nodup := eligible_names_nodup hindexed
  obtain ⟨n, hspent, hcollect⟩ := collect_draws hnames source (count * triesPerReward) 0
    (fun k hk => absurd hk (Nat.not_lt_zero k)) (Nat.zero_le count)
  refine ⟨n, Nat.zero_add (count * triesPerReward) ▸ hspent, ?_⟩
  have hstart : r.collect loadout count (count * triesPerReward) [] source =
      (.ok (firsts (r.eligible loadout) (r.draws n source).1), (r.draws n source).2) := hcollect
  rw [drawDistinct_of_enough henough, hstart]
  exact congrArg (fun cards => (Except.ok cards, (r.draws n source).2))
    (foldl_accept_firsts hnames _)

/-- Which rewards a draw from a loaded catalog yields, and in which order. It draws until as many
eligible cards have appeared as were asked for, or until the attempts are spent, and yields these
cards in order of first appearance; what is missing follows in the catalog's order. Sources with
the same outcomes yield the same rewards. An outcome that does not count only costs its attempt. -/
theorem drawDistinct_in_order [LawfulChance σ] {entries : List Entry} {catalog : Catalog}
    (hload : Catalog.ofEntries entries = .ok catalog) (settings : Settings) (loadout : Loadout)
    (count : Nat) (source : σ)
    (henough : count ≤ (({ catalog, settings } : Rewards).eligible loadout).length) :
    let r : Rewards := { catalog, settings }
    let eligible := r.eligible loadout
    (∃ n, Spent eligible count (count * triesPerReward) (fun k => (r.draws k source).1) n ∧
      r.drawDistinct count loadout source =
        (.ok (rewarded eligible count (r.draws n source).1), (r.draws n source).2) ∧
      ∀ (τ : Type) [Chance τ] [LawfulChance τ] (other : τ),
        (r.draws n other).1 = (r.draws n source).1 →
          (r.drawDistinct count loadout other).1 = (r.drawDistinct count loadout source).1) ∧
      ∀ (attempts : Nat) (picked : List Card) (source : σ), picked.length < count →
        Idle loadout picked (r.draw source).1 →
          r.collect loadout count (attempts + 1) picked source =
            r.collect loadout count attempts picked (r.draw source).2 := by
  intro r eligible
  have hindexed : r.catalog.Indexed := Catalog.indexed_ofEntries hload
  refine ⟨?_, fun attempts picked source => collect_of_idle attempts⟩
  obtain ⟨n, hspent, hdrawn⟩ := drawDistinct_draws hindexed henough source
  refine ⟨n, hspent, hdrawn, fun τ _ _ other hsame => ?_⟩
  obtain ⟨m, hspent', hdrawn'⟩ := drawDistinct_draws hindexed henough other
  have hagree : ∀ k ≤ n, (r.draws k other).1 = (r.draws k source).1 := by
    intro k hk
    rw [← take_draws hk other, hsame, take_draws hk]
  obtain rfl := hspent'.unique hspent hagree
  rw [hdrawn', hdrawn, hsame]

/-- Every draw finds the same card, so the attempts are spent and the other one is filled in. -/
theorem drawDistinct_in_order_stuck :
    let axe : Entry := { name := "Axe", slot := .mainHand, rarity := .common, aim := .opponent,
                         description := "Attack for 3" }
    let mace : Entry := { name := "Mace", slot := .mainHand, rarity := .common, aim := .opponent,
                          description := "Attack for 4" }
    ∃ catalog, Catalog.ofEntries [axe, mace] = .ok catalog ∧
      let r : Rewards := { catalog, settings := { weights := [(.common, 1)] } }
      2 ≤ (r.eligible {}).length ∧
        Spent (r.eligible {}) 2 128 (fun k => (r.draws k ({} : Script)).1) 128 ∧
        (r.drawDistinct 2 {} ({} : Script)).1 = .ok [Card.ofEntry axe, Card.ofEntry mace] := by
  intro axe mace
  have hnames : ([axe, mace].map (·.name)).Nodup := by decide
  obtain ⟨catalog, hload, hcards⟩ := Catalog.exists_ofEntries hnames
  refine ⟨catalog, hload, ?_⟩
  intro r
  have heligible : r.eligible {} = [Card.ofEntry axe, Card.ofEntry mace] := by
    show catalog.toList.filter _ = _
    rw [hcards]
    rfl
  have hdraw : r.draw ({} : Script) = (.ok (Card.ofEntry axe), {}) := by
    have hrarity : r.settings.rarityFor (Chance.unit ({} : Script)).1 = .common := by
      have h := Settings.hasWeight_rarityFor (s := r.settings) (List.cons_ne_nil _ _)
        (Chance.unit ({} : Script)).1
      simpa [r, Settings.hasWeight, eq_comm] using h
    have hcandidates : r.candidates .mainHand .common =
        [Card.ofEntry axe, Card.ofEntry mace] := by
      show (if (catalog.toList.filter _).isEmpty then _ else catalog.toList.filter _) = _
      rw [hcards]
      rfl
    obtain ⟨card, hcard, hdrawn⟩ := drawFor_of_ne_nil (hrarity ▸ hcandidates) (List.cons_ne_nil _ _)
    obtain rfl := Option.some.inj hcard
    exact hdrawn
  have haxe : Card.ofEntry axe ∈ r.eligible {} := heligible ▸ List.mem_cons_self
  have henough : 2 ≤ (r.eligible {}).length := by
    rw [heligible]
    decide
  obtain ⟨⟨n, hspent, hdrawn, -⟩, -⟩ :=
    drawDistinct_in_order hload { weights := [(.common, 1)] } {} 2 ({} : Script) henough
  have hstuck := draws_of_stuck hdraw
  have hn : n = 128 := by
    rcases hspent.ends with hall | hfull
    · exact hall
    · cases n with
      | zero => cases hfull
      | succ n =>
        rw [hstuck, firsts_replicate haxe] at hfull
        cases hfull
  subst hn
  have hname : mace.name ≠ axe.name := by decide
  have hmace : Card.ofEntry mace ≠ Card.ofEntry axe := fun h => hname (congrArg (·.name) h)
  refine ⟨henough, hspent, ?_⟩
  rw [hdrawn, hstuck]
  unfold rewarded
  rw [firsts_replicate haxe, heligible]
  simp [hmace]

end Skirmish.Rewards
