import Mathlib.Data.List.Basic

/-!
# Trails

Entries that each lead from one point to another form a trail when every entry starts
where the one before it ended.
-/

set_option autoImplicit false

universe u v

/-- The entries lead from `start` to `finish`. -/
def Trail {ε : Type u} {σ : Type v} (source target : ε → σ) : σ → List ε → σ → Prop
  | start, [], finish => finish = start
  | start, entry :: rest, finish => source entry = start ∧ Trail source target (target entry) rest finish

namespace Trail

variable {ε : Type u} {σ : Type v} {source target : ε → σ} {start middle finish : σ}

@[simp] theorem nil_iff : Trail source target start [] finish ↔ finish = start := Iff.rfl

@[simp] theorem cons_iff {entry : ε} {rest : List ε} :
    Trail source target start (entry :: rest) finish ↔
      source entry = start ∧ Trail source target (target entry) rest finish := Iff.rfl

theorem append {first later : List ε} (before : Trail source target start first middle)
    (after : Trail source target middle later finish) :
    Trail source target start (first ++ later) finish := by
  induction first generalizing start with
  | nil =>
      rw [nil_iff] at before
      rw [← before]
      exact after
  | cons entry rest ih => exact ⟨before.1, ih before.2⟩

/-- The last entry ends where the trail does. -/
theorem last {entries : List ε} {entry : ε} (trail : Trail source target start entries finish)
    (ends : entries.getLast? = some entry) : target entry = finish := by
  induction entries generalizing start with
  | nil => cases ends
  | cons head rest ih =>
      cases rest with
      | nil =>
          cases ends
          exact trail.2.symm
      | cons next tail => exact ih trail.2 ends

end Trail
