import Skirmish.Proofs.Amount
import Skirmish.Proofs.Clause.Language
import Skirmish.Proofs.Readings

/-!
# What a clause can say

`Action.Writable` collects the bounds of the card language: amounts and counts of 16 bits, signed
ones for buffs, and attacks that deal at least one at least once. Every action of a description
that is read keeps to them.
-/

namespace Skirmish

def Action.Writable : Action → Prop
  | attack a =>
    1 ≤ a.amount.toInt ∧ a.amount.toInt ≤ 65535 ∧ 1 ≤ a.times.toNat ∧ a.times.toNat ≤ 65535
  | defend n | heal n | burn n | poison n | spike n => 0 ≤ n.toInt ∧ n.toInt ≤ 65535
  | draw n => n.toNat ≤ 65535
  | cleanse => True
  | buff _ n => -32768 ≤ n.toInt ∧ n.toInt ≤ 32767

theorem Action.Writable.times_pos {a : Action} (h : a.Writable) : 1 ≤ a.times.toNat := by
  cases a with
  | attack a => exact h.2.2.1
  | _ => exact Nat.le_refl 1

namespace Clause

open Text

theorem le_of_number? {cs : List Char} {n : Nat} (h : number? cs = some n) : n ≤ 65535 := by
  have hn := (Option.filter_eq_some_iff.1 h).2
  simpa using hn

theorem toInt_ofNat {n : Nat} (h : n ≤ 65535) : (Int64.ofNat n).toInt = n :=
  Int64.toInt_ofNat_of_lt (by omega)

theorem amount?_bounds {cs : List Char} {a : Amount} (h : amount? cs = some a) :
    0 ≤ a.toInt ∧ a.toInt ≤ 65535 := by
  obtain ⟨n, hn, rfl⟩ := Option.map_eq_some_iff.1 h
  have hle := le_of_number? hn
  rw [toInt_ofNat hle]
  omega

theorem worded?_bounds {keyword : String} {cs : List Char} {a : Amount}
    (h : worded? keyword cs = some a) : 0 ≤ a.toInt ∧ a.toInt ≤ 65535 := by
  obtain ⟨rest, -, hr⟩ := Option.bind_eq_some_iff.1 h
  exact amount?_bounds hr

/-! ## Attacks -/

/-- The counts of a repeat are those of the card language. -/
def Modifier.Writable : Modifier → Prop
  | times n => 1 ≤ n ∧ n ≤ 65535
  | _ => True

theorem writable_of_modifier? {cs : List Char} {m : Modifier} (h : modifier? cs = some m) :
    m.Writable := by
  unfold modifier? at h
  split at h
  · obtain rfl := Option.some.inj h
    trivial
  · split at h
    · obtain rfl := Option.some.inj h
      trivial
    · split at h
      · obtain ⟨n, hn, rfl⟩ := Option.map_eq_some_iff.1 h
        obtain ⟨hn, hpos⟩ := Option.filter_eq_some_iff.1 hn
        exact ⟨by simpa using hpos, le_of_number? hn⟩
      · cases h

theorem Modifier.writable_apply {a : Attack} (h : (Action.attack a).Writable) {m : Modifier}
    (hm : m.Writable) : (Action.attack (m.apply a)).Writable := by
  obtain ⟨h₁, h₂, h₃, h₄⟩ := h
  cases m with
  | times n =>
    have ht : (UInt32.ofNat n).toNat = n :=
      UInt32.toNat_ofNat_of_lt' (Nat.lt_of_le_of_lt hm.2 (by decide))
    refine ⟨h₁, h₂, ?_, ?_⟩
    · exact ht.symm ▸ hm.1
    · exact ht.symm ▸ hm.2
  | _ => exact ⟨h₁, h₂, h₃, h₄⟩

theorem Modifier.writable_foldl {ms : List Modifier} (hms : ∀ m ∈ ms, m.Writable) {a : Attack}
    (h : (Action.attack a).Writable) : (Action.attack (ms.foldl Modifier.apply a)).Writable := by
  induction ms generalizing a with
  | nil => exact h
  | cons m ms ih =>
    obtain ⟨hm, hms⟩ := List.forall_mem_cons.1 hms
    exact ih hms (writable_apply h hm)

/-- Whatever was read in a list that was read whole was read somewhere in it. -/
theorem exists_of_mem_mapM {α β : Type} {f : α → Option β} {xs : List α} {ys : List β}
    (h : xs.mapM f = some ys) {y : β} (hy : y ∈ ys) : ∃ x, f x = some y := by
  induction xs generalizing ys with
  | nil =>
    obtain rfl : [] = ys := by simpa using h
    cases hy
  | cons x xs ih =>
    rw [List.mapM_cons] at h
    obtain ⟨z, hz, h⟩ := Option.bind_eq_some_iff.1 h
    obtain ⟨zs, hzs, h⟩ := Option.bind_eq_some_iff.1 h
    obtain rfl := Option.some.inj h
    rcases List.mem_cons.1 hy with rfl | hy
    · exact ⟨x, hz⟩
    · exact ih hzs hy

theorem writable_of_attack? {cs : List Char} {a : Action} (h : attack? cs = some a) :
    a.Writable := by
  unfold attack? at h
  split at h
  · cases h
  · rename_i head rest hpieces
    obtain ⟨amount, hamount, h⟩ := Option.bind_eq_some_iff.1 h
    obtain ⟨modifiers, hmodifiers, h⟩ := Option.bind_eq_some_iff.1 h
    obtain ⟨after, -, hnumber⟩ := Option.bind_eq_some_iff.1 hamount
    have hle := le_of_number? hnumber
    split at h
    · cases h
    · rename_i hpos
      obtain rfl := Option.some.inj h
      have hamount := toInt_ofNat hle
      refine Modifier.writable_foldl (fun m hm => ?_) ?_
      · obtain ⟨piece, hpiece⟩ := exists_of_mem_mapM hmodifiers hm
        exact writable_of_modifier? hpiece
      · show 1 ≤ (Int64.ofNat amount).toInt ∧ (Int64.ofNat amount).toInt ≤ 65535 ∧
          1 ≤ (1 : UInt32).toNat ∧ (1 : UInt32).toNat ≤ 65535
        rw [hamount]
        exact ⟨by omega, by omega, by decide, by decide⟩

/-! ## Clauses -/

theorem writable_of_draw? {cs : List Char} {a : Action} (h : draw? cs = some a) : a.Writable := by
  obtain ⟨⟨count, noun⟩, -, h⟩ := Option.bind_eq_some_iff.1 h
  obtain ⟨n, hn, h⟩ := Option.bind_eq_some_iff.1 h
  have hle := le_of_number? hn
  split at h
  · obtain rfl := Option.some.inj h
    have ht : (UInt32.ofNat n).toNat = n :=
      UInt32.toNat_ofNat_of_lt' (Nat.lt_of_le_of_lt hle (by decide))
    show (UInt32.ofNat n).toNat ≤ 65535
    rw [ht]
    exact hle
  · cases h

theorem buff?_bounds {cs : List Char} {name : String} {a : Amount}
    (h : buff? cs = some (name, a)) : -32768 ≤ a.toInt ∧ a.toInt ≤ 32767 := by
  obtain ⟨⟨stat, amount⟩, -, h⟩ := Option.bind_eq_some_iff.1 h
  obtain ⟨n, hn, h⟩ := Option.bind_eq_some_iff.1 h
  obtain ⟨-, hbounds⟩ := Option.filter_eq_some_iff.1 hn
  obtain ⟨lo, hi⟩ := of_decide_eq_true hbounds
  obtain ⟨-, rfl⟩ := Prod.mk.inj (Option.some.inj h)
  rw [Int64.toInt_ofInt_of_le (by omega) (by omega)]
  exact ⟨lo, hi⟩

theorem writable_of_mem_wordedActions {keyword : String} {action : Amount → Action} {n : Amount}
    (h : (keyword, action) ∈ wordedActions) (hn : 0 ≤ n.toInt ∧ n.toInt ≤ 65535) :
    (action n).Writable := by
  simp only [wordedActions, List.mem_cons, List.not_mem_nil, or_false, Prod.mk.injEq] at h
  rcases h with ⟨rfl, rfl⟩ | ⟨rfl, rfl⟩ | ⟨rfl, rfl⟩ | ⟨rfl, rfl⟩ | ⟨rfl, rfl⟩ <;> exact hn

theorem writable_of_plain? {cs : List Char} {a : Action} (h : plain? cs = some a) :
    a.Writable := by
  simp only [plain?_eq, Option.or_eq_some_iff] at h
  rcases h with h | ⟨-, h | ⟨-, h | ⟨-, h⟩⟩⟩
  · obtain ⟨-, rfl⟩ := cleanse?_eq_some_iff.1 h
    trivial
  · obtain ⟨⟨keyword, action⟩, hmem, h⟩ := List.exists_of_findSome?_eq_some h
    obtain ⟨n, hn, rfl⟩ := Option.map_eq_some_iff.1 h
    exact writable_of_mem_wordedActions hmem (worded?_bounds hn)
  · exact writable_of_draw? h
  · exact writable_of_attack? h

/-- A clause that is read keeps to the bounds of the card language. -/
theorem writable_of_read {cs : List Char} {a : Action} (h : read cs = .ok a) : a.Writable := by
  unfold read at h
  split at h
  · rename_i name amount hb
    split at h
    · obtain rfl := Except.ok.inj h
      exact buff?_bounds hb
    · cases h
  · split at h
    · rename_i action hp
      obtain rfl := Except.ok.inj h
      exact writable_of_plain? hp
    · cases h

end Clause

namespace Description

theorem writable_of_mem_reading {a : Action} {text : String} (h : a ∈ (reading text).actions) :
    a.Writable := by
  rw [actions_reading] at h
  obtain ⟨clause, -, hclause⟩ := List.mem_filterMap.1 h
  exact Clause.writable_of_read (Clause.action?_eq_some_iff.1 hclause)

theorem writable_of_parse {text : String} {actions : List Action}
    (h : parse text = .ok actions) : ∀ a ∈ actions, a.Writable := by
  obtain ⟨-, rfl⟩ := parse_eq_ok_iff.1 h
  exact fun a => writable_of_mem_reading

end Description

end Skirmish
