import Mathlib

/-!
# Triples about steps that may fail

What a triple says of the run of a step that has a state and may fail.
-/

namespace ServiceBlueprint

open Std.Do

variable {σ ε α : Type}

theorem of_triple {P : σ → Prop} {m : StateT σ (Except ε) α} {Q : α → σ → Prop} {E : ε → Prop}
    (h : ⦃fun s => ⌜P s⌝⦄ m ⦃post⟨fun a s => ⌜Q a s⌝, fun e => ⌜E e⌝⟩⦄) {s : σ} (hs : P s) :
    match m.run s with
    | .ok (a, s') => Q a s'
    | .error e => E e := by
  have hrun : (wp⟦m.run s⟧ (fun r => ⌜Q r.1 r.2⌝, fun e => ⌜E e⌝, ())).down := h s hs
  cases hm : m.run s with
  | ok r =>
    rw [hm] at hrun
    exact hrun
  | error e =>
    rw [hm] at hrun
    exact hrun

end ServiceBlueprint
