import Mathlib.Data.List.Basic

/-!
# Texts that carry a scope and a key

Two ways of writing a scope and a key in one text: joined by a separator, where
two pairs share a text only when one scope straddles the separator, and framed
by the length of the scope, where no two pairs do.  A list of parts joined by a
separator is read back exactly when no part contains it.
-/

set_option autoImplicit false

namespace ScopedText
variable {α : Type*} {separator : α} {a b c d : List α}

/-- The scope `a` is the scope `c` with more text after a separator, and that text
is in front of the key `d` instead. -/
def Straddles (separator : α) (a b c d : List α) : Prop :=
  ∃ between, a = c ++ separator :: between ∧ d = between ++ separator :: b

theorem Straddles.scopes_differ (straddles : Straddles separator a b c d) : a ≠ c := by
  obtain ⟨between, longer, _⟩ := straddles
  intro same
  have lengths := congrArg List.length longer
  simp only [same, List.length_append, List.length_cons] at lengths
  omega

theorem Straddles.joined (straddles : Straddles separator a b c d) :
    a ++ separator :: b = c ++ separator :: d := by
  obtain ⟨between, rfl, rfl⟩ := straddles
  simp

theorem straddles_of_longer {rest : List α} (longer : a = c ++ rest) (differ : a ≠ c)
    (joined : separator :: d = rest ++ separator :: b) : Straddles separator a b c d := by
  cases rest with
  | nil => exact absurd (by simpa using longer) differ
  | cons first between =>
      rw [List.cons_append, List.cons.injEq] at joined
      obtain ⟨rfl, further⟩ := joined
      exact ⟨between, longer, further⟩

/-- Joined texts agree on equal pairs and on straddling ones. -/
theorem joined_eq_iff : a ++ separator :: b = c ++ separator :: d ↔
    (a = c ∧ b = d) ∨ Straddles separator a b c d ∨ Straddles separator c d a b := by
  constructor
  · intro same
    by_cases scopes : a = c
    · subst scopes
      exact Or.inl ⟨rfl, by simpa using same⟩
    rcases List.append_eq_append_iff.mp same with ⟨rest, longer, joined⟩ | ⟨rest, longer, joined⟩
    · exact Or.inr (Or.inr (straddles_of_longer longer (Ne.symm scopes) joined))
    · exact Or.inr (Or.inl (straddles_of_longer longer scopes joined))
  · rintro (⟨rfl, rfl⟩ | straddles | straddles)
    · rfl
    · exact straddles.joined
    · exact straddles.joined.symm

/-- A separator that is in neither scope decides where the key begins. -/
theorem joined_injective (absent : separator ∉ a) (absent' : separator ∉ c)
    (same : a ++ separator :: b = c ++ separator :: d) : a = c ∧ b = d := by
  rcases joined_eq_iff.mp same with equal | ⟨between, longer, _⟩ | ⟨between, longer, _⟩
  · exact equal
  · exact absurd (by simp [longer]) absent
  · exact absurd (by simp [longer]) absent'

/-- A scope framed by its length is read back. -/
theorem framed_injective {digits : Nat → List α} (injective : Function.Injective digits)
    (closes : ∀ n, separator ∉ digits n)
    (same : digits a.length ++ separator :: (a ++ b) = digits c.length ++ separator :: (c ++ d)) :
    a = c ∧ b = d := by
  obtain ⟨lengths, texts⟩ := joined_injective (closes _) (closes _) same
  exact List.append_inj texts (injective lengths)

/-! ## Lists of parts -/

section Parts
variable [BEq α] [LawfulBEq α]

theorem splitOn_intercalate_flatMap (separator : α) {parts : List (List α)} (filled : parts ≠ []) :
    ([separator].intercalate parts).splitOn separator =
      parts.flatMap (List.splitOn separator) := by
  induction parts with
  | nil => exact absurd rfl filled
  | cons part rest ih =>
      cases rest with
      | nil => simp
      | cons next further =>
          have step := List.splitOn_append_cons_self part ([separator].intercalate (next :: further))
            (a := separator)
          rw [ih (by simp)] at step
          rw [List.flatMap_cons, ← step]
          simp

/-- A part is split by every separator that it contains. -/
theorem one_lt_length_splitOn {part : List α} (held : separator ∈ part) :
    1 < (part.splitOn separator).length := by
  obtain ⟨before, after, rfl⟩ := List.append_of_mem held
  have first := List.length_pos_of_ne_nil (List.splitOn_ne_nil separator before)
  have second := List.length_pos_of_ne_nil (List.splitOn_ne_nil separator after)
  rw [List.splitOn_append_cons_self, List.length_append]
  omega

theorem length_le_flatMap_splitOn (separator : α) (parts : List (List α)) :
    parts.length ≤ (parts.flatMap (List.splitOn separator)).length := by
  induction parts with
  | nil => simp
  | cons part rest ih =>
      have first := List.length_pos_of_ne_nil (List.splitOn_ne_nil separator part)
      rw [List.flatMap_cons, List.length_append, List.length_cons]
      omega

theorem length_lt_flatMap_splitOn {parts : List (List α)} {part : List α} (member : part ∈ parts)
    (held : separator ∈ part) :
    parts.length < (parts.flatMap (List.splitOn separator)).length := by
  obtain ⟨before, after, rfl⟩ := List.append_of_mem member
  have first := length_le_flatMap_splitOn separator before
  have later := length_le_flatMap_splitOn separator after
  have broken := one_lt_length_splitOn held
  simp only [List.flatMap_append, List.flatMap_cons, List.length_append, List.length_cons]
  omega

/-- Joined parts are read back exactly when none of them contains the separator. -/
theorem splitOn_intercalate_iff (separator : α) {parts : List (List α)} (filled : parts ≠ []) :
    ([separator].intercalate parts).splitOn separator = parts ↔
      ∀ part ∈ parts, separator ∉ part := by
  constructor
  · intro same part member held
    have longer := length_lt_flatMap_splitOn member held
    rw [← splitOn_intercalate_flatMap separator filled, same] at longer
    exact Nat.lt_irrefl _ longer
  · intro absent
    exact List.splitOn_intercalate separator absent filled

end Parts

end ScopedText
