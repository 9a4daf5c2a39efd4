import LotusIdea.Foundation.OrderedDict

/-!
# Dictionaries that carry their values

A dictionary carries its values to another one when each of them is still bound there,
to a value in a relation to what it was.
-/

set_option autoImplicit false

universe u v

namespace Dict

variable {κ : Type u} {υ : Type v} [DecidableEq κ]

def Carries (R : υ → υ → Prop) (d e : Dict κ υ) : Prop :=
  ∀ key old, d.get? key = some old → ∃ new, e.get? key = some new ∧ R old new

variable {R : υ → υ → Prop}

theorem carries_refl (refl : ∀ value, R value value) (d : Dict κ υ) : d.Carries R d := by
  intro key old stored
  exact ⟨old, stored, refl old⟩

theorem carries_trans (trans : ∀ a b c, R a b → R b c → R a c) {d e f : Dict κ υ}
    (first : d.Carries R e) (second : e.Carries R f) : d.Carries R f := by
  intro key old stored
  obtain ⟨middle, kept, before⟩ := first key old stored
  obtain ⟨new, later, after⟩ := second key middle kept
  exact ⟨new, later, trans _ _ _ before after⟩

/-- An assignment carries all values when it carries the one that it replaces. -/
theorem carries_set (refl : ∀ value, R value value) {d : Dict κ υ} {key : κ} {value : υ} :
    d.Carries R (d.set key value) ↔ ∀ old, d.get? key = some old → R old value := by
  constructor
  · intro all old stored
    obtain ⟨new, held, related⟩ := all key old stored
    rw [get?_set_self] at held
    cases held
    exact related
  · intro own k old stored
    by_cases here : k = key
    · subst here
      exact ⟨value, get?_set_self _ _ _, own old stored⟩
    · exact ⟨old, by rw [get?_set_of_ne _ here]; exact stored, refl old⟩

/-- What holds of the value under a key. -/
theorem forall_bound_iff {d : Dict κ υ} {key : κ} {value : υ} {P : υ → Prop}
    (stored : d.get? key = some value) : (∀ old, d.get? key = some old → P old) ↔ P value := by
  constructor
  · intro all
    exact all value stored
  · intro own old found
    rw [stored] at found
    cases found
    exact own

end Dict
