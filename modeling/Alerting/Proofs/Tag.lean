import Alerting.Tag

/-!
# Tags and their values

A text is a tag exactly when it is among the tags of the type.
-/
namespace Alerting.Tagged

variable {α : Type} [Tagged α]

theorem exists_ofTag? {text : String} : (∃ a : α, ofTag? text = some a) ↔ text ∈ tags α := by
  rw [← Option.isSome_iff_exists, ofTag?, List.find?_isSome, tags, List.mem_map]
  simp only [decide_eq_true_iff]

theorem ofTag?_eq_none {text : String} : (ofTag? text : Option α) = none ↔ text ∉ tags α := by
  rw [← exists_ofTag?, ← Option.isSome_iff_exists, Option.not_isSome_iff_eq_none]

end Alerting.Tagged
