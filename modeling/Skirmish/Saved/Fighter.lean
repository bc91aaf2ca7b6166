import Skirmish.Fighter
import Skirmish.Saved

/-!
# Saved fighters

The saved forms of fighters and of what happens to them. Any amounts are read, also those that no
fight brings about.
-/

namespace Skirmish.Saved

instance : Saved Stat where
  toJson s := .str s.name
  ofJson? := named? Stat.all Stat.name

instance : Saved DamageType where
  toJson t := .str t.name
  ofJson? := named? DamageType.all DamageType.name

instance : Saved Buffs where
  toJson b :=
    .obj (Stat.all.map fun s => (s.name.toLower, toJson (b.get s)))
  ofJson? v := do
    let f ← fields? (Stat.all.map (·.name.toLower)) v
    some
      { attack := ← f.required "attack"
        defense := ← f.required "defense"
        healing := ← f.required "healing"
        burn := ← f.required "burn"
        poison := ← f.required "poison"
        spike := ← f.required "spike" }

instance : Saved Fighter where
  toJson f :=
    .obj
      [("max_life", toJson f.maxLife), ("life", toJson f.life), ("defense", toJson f.defense),
        ("burn", toJson f.burn), ("poison", toJson f.poison), ("spike", toJson f.spike),
        ("buffs", toJson f.buffs)]
  ofJson? v := do
    let f ← fields? ["max_life", "life", "defense", "burn", "poison", "spike", "buffs"] v
    some
      { maxLife := ← f.required "max_life"
        life := ← f.required "life"
        defense := ← f.required "defense"
        burn := ← f.required "burn"
        poison := ← f.required "poison"
        spike := ← f.required "spike"
        buffs := ← f.required "buffs" }

instance : Saved Impact where
  toJson i :=
    .obj
      [("absorbed", toJson i.absorbed), ("life_lost", toJson i.lifeLost),
        ("reflected", toJson i.reflected)]
  ofJson? v := do
    let f ← fields? ["absorbed", "life_lost", "reflected"] v
    some
      { absorbed := ← f.required "absorbed"
        lifeLost := ← f.required "life_lost"
        reflected := ← f.defaulting "reflected" none }

instance : Saved Decay where
  toJson d := .obj [("burn", toJson d.burn), ("poison", toJson d.poison)]
  ofJson? v := do
    let f ← fields? ["burn", "poison"] v
    some
      { burn := ← f.defaulting "burn" none
        poison := ← f.defaulting "poison" none }

end Skirmish.Saved
