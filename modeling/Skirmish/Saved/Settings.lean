import Skirmish.Chance.Generator
import Skirmish.Saved.Card
import Skirmish.Settings

/-!
# Saved settings

The saved forms of checkpoints, pacing and settings. Whatever pacing or settings leave out keeps
its default.
-/

namespace Skirmish.Saved

instance : Saved Checkpoint where
  toJson c := .obj [("seed", toJson c.seed), ("word_pos", .nat c.wordPosition)]
  ofJson? v := do
    let f ← fields? ["seed", "word_pos"] v
    some
      { seed := ← f.required "seed"
        wordPosition := ← (f "word_pos").bind (natural? 0xffffffffffffffffffffffffffffffff) }

instance : Saved Pacing where
  toJson p :=
    .obj
      [("action_delay_ms", toJson p.action), ("attack_delay_ms", toJson p.attack),
        ("effect_trigger_delay_ms", toJson p.effectTrigger),
        ("between_effects_delay_ms", toJson p.betweenEffects)]
  ofJson? v := do
    let f ← fields?
      ["action_delay_ms", "attack_delay_ms", "effect_trigger_delay_ms", "between_effects_delay_ms"]
      v
    let usual : Pacing := {}
    some
      { action := ← f.defaulting "action_delay_ms" usual.action
        attack := ← f.defaulting "attack_delay_ms" usual.attack
        effectTrigger := ← f.defaulting "effect_trigger_delay_ms" usual.effectTrigger
        betweenEffects := ← f.defaulting "between_effects_delay_ms" usual.betweenEffects }

/-- A rarity and its weight, in an array of two. -/
def weight? : Json → Option (Rarity × Float32)
  | .array [rarity, .number n] => do some (← ofJson? rarity, ← n.toFloat32?)
  | _ => none

def weights? : Json → Option (List (Rarity × Float32))
  | .array vs => vs.mapM weight?
  | _ => none

def settings? (v : Json) : Option Settings := do
  let f ← fields? ["pacing", "rarity_weights"] v
  let usual : Settings := {}
  some
    { pacing := ← f.defaulting "pacing" usual.pacing
      weights := ← (f "rarity_weights").elim (some usual.weights) weights? }

end Skirmish.Saved
