import Mathlib.Data.List.Basic

/-!
# Relays

A value is handed on from one leg of a journey to the next, and each leg may change or refuse
it. A property that every leg asks of what it is handed, and gives back of what it hands on,
holds along the journey. What of the value is the same behind each leg is the same at the end.

## Main definitions

* `Carries` — a leg that takes the values with a property, and keeps what is seen of them

## Main results

* `Carries.bind`, `Carries.foldlM` — two legs, and any number of them
-/

namespace MipitCore.Foundation

variable {α β ε ι : Type}

/-- `leg` takes every value with the property `P`, and what it hands on has the property and looks
the same through `view`. -/
def Carries (P : α → Prop) (view : α → β) (leg : α → Except ε α) : Prop :=
  ∀ a, P a → ∃ b, leg a = .ok b ∧ P b ∧ view b = view a

namespace Carries

variable {P : α → Prop} {view : α → β} {leg leg' : α → Except ε α}

theorem pure : Carries P view (.ok : α → Except ε α) := fun a ha => ⟨a, rfl, ha, rfl⟩

/-- One leg after another. -/
theorem bind (h : Carries P view leg) (h' : Carries P view leg') :
    Carries P view fun a => leg a >>= leg' := by
  intro a ha
  obtain ⟨b, hb, hP, hview⟩ := h a ha
  obtain ⟨b', hb', hP', hview'⟩ := h' b hP
  refine ⟨b', ?_, hP', hview'.trans hview⟩
  change leg a >>= leg' = _
  rw [hb]
  exact hb'

/-- **Any number of legs.** -/
theorem foldlM {legs : List ι} {step : α → ι → Except ε α}
    (h : ∀ i ∈ legs, Carries P view fun a => step a i) :
    Carries P view fun a => legs.foldlM step a := by
  induction legs with
  | nil => exact pure
  | cons i legs ih =>
    have hrest := ih fun j hj => h j (List.mem_cons_of_mem i hj)
    exact (h i List.mem_cons_self).bind hrest

end Carries

end MipitCore.Foundation
