import LotusIdea.Foundation.Checked

/-!
# Errors that a computation does not raise

A computation avoids a kind of error when no error it raises is of the kind.  A
sequence avoids what its parts avoid, and a constructor what its failing checks do
not carry.  Of one computation for each item of a list, either all return or none.
-/

set_option autoImplicit false

/-- No failing check carries an error of the kind. -/
def Harmless {ε : Type*} (Kind : ε → Prop) (checks : List (Bool × ε)) : Prop :=
  ∀ check ∈ checks, check.1 = true → ¬ Kind check.2

section Harmless
variable {ε : Type*} {Kind : ε → Prop}

@[simp] theorem harmless_nil : Harmless Kind [] := by
  intro check member
  cases member

@[simp] theorem harmless_cons {check : Bool × ε} {rest : List (Bool × ε)} :
    Harmless Kind (check :: rest) ↔ (check.1 = true → ¬ Kind check.2) ∧ Harmless Kind rest := by
  simp only [Harmless, List.forall_mem_cons]

@[simp] theorem harmless_append {first second : List (Bool × ε)} :
    Harmless Kind (first ++ second) ↔ Harmless Kind first ∧ Harmless Kind second := by
  simp only [Harmless, List.forall_mem_append]

/-- The checks of a value that may be absent. -/
theorem harmless_elim {α : Type*} {value : Option α} {checks : α → List (Bool × ε)}
    (each : ∀ a, Harmless Kind (checks a)) : Harmless Kind (value.elim [] checks) := by
  cases value with
  | none => exact harmless_nil
  | some a => exact each a

theorem harmless_map {α : Type*} {values : List α} {check : α → Bool × ε}
    (each : ∀ a, ¬ Kind (check a).2) : Harmless Kind (values.map check) := by
  intro failing member _
  obtain ⟨a, _, rfl⟩ := List.mem_map.mp member
  exact each a

theorem firstFailure_harmless {checks : List (Bool × ε)} (harmless : Harmless Kind checks)
    {error : ε} (raised : firstFailure checks = some error) : ¬ Kind error :=
  harmless (true, error) (firstFailure_mem raised) rfl

end Harmless

namespace Except
universe u v
variable {ε : Type u} {α β : Type v} {Kind : ε → Prop}

/-- No error that is raised is of the kind. -/
def Avoids (Kind : ε → Prop) (run : Except ε α) : Prop :=
  ∀ error, run = .error error → ¬ Kind error

namespace Avoids

theorem ok (a : α) : Avoids Kind (.ok a : Except ε α) := by
  intro error raised
  cases raised

theorem error {own : ε} (other : ¬ Kind own) : Avoids Kind (.error own : Except ε α) := by
  intro error raised
  cases raised
  exact other

theorem seq {first : Except ε α} {next : α → Except ε β} (avoids : Avoids Kind first)
    (further : ∀ a, first = .ok a → Avoids Kind (next a)) : Avoids Kind (first >>= next) := by
  intro error raised
  rcases seq_raises.mp raised with early | ⟨a, ran, late⟩
  · exact avoids error early
  · exact further a ran error late

theorem map {run : Except ε α} (f : α → β) (avoids : Avoids Kind run) :
    Avoids Kind (run.map f) := by
  cases run with
  | error own => exact error (avoids own rfl)
  | ok a => exact ok (f a)

end Avoids

/-! ## One computation for each item -/

section Items
variable {ι : Type*} {f : ι → Except ε β}

theorem mapM_ok {after : ι → β} {items : List ι}
    (each : ∀ item ∈ items, f item = .ok (after item)) :
    items.mapM f = .ok (items.map after) := by
  induction items with
  | nil => rfl
  | cons item rest ih =>
      have head := each item List.mem_cons_self
      have tail := ih fun other member => each other (List.mem_cons_of_mem _ member)
      rw [List.mapM_cons, head, tail]
      rfl

/-- Each result is that of an item. -/
theorem mem_of_mapM {items : List ι} {results : List β} (ran : items.mapM f = .ok results) :
    ∀ result ∈ results, ∃ item ∈ items, f item = .ok result := by
  induction items generalizing results with
  | nil =>
      cases ran
      intro result listed
      cases listed
  | cons first rest ih =>
      rw [List.mapM_cons] at ran
      obtain ⟨own, firstRan, ran⟩ := seq_returns.mp ran
      obtain ⟨others, restRan, ran⟩ := seq_returns.mp ran
      cases ran
      intro result listed
      rcases List.mem_cons.mp listed with rfl | later
      · exact ⟨first, List.mem_cons_self, firstRan⟩
      · obtain ⟨item, member, itemRan⟩ := ih restRan result later
        exact ⟨item, List.mem_cons_of_mem _ member, itemRan⟩

/-- Where the list has results, every item has one. -/
theorem each_of_mapM {items : List ι} {results : List β} (ran : items.mapM f = .ok results) :
    ∀ item ∈ items, ∃ result ∈ results, f item = .ok result := by
  induction items generalizing results with
  | nil =>
      intro item listed
      cases listed
  | cons first rest ih =>
      rw [List.mapM_cons] at ran
      obtain ⟨own, firstRan, ran⟩ := seq_returns.mp ran
      obtain ⟨others, restRan, ran⟩ := seq_returns.mp ran
      cases ran
      intro item listed
      rcases List.mem_cons.mp listed with rfl | later
      · exact ⟨own, List.mem_cons_self, firstRan⟩
      · obtain ⟨result, member, itemRan⟩ := ih restRan item later
        exact ⟨result, List.mem_cons_of_mem _ member, itemRan⟩

/-- Where every item has a result, so has the list. -/
theorem mapM_total {items : List ι} (each : ∀ item ∈ items, ∃ result, f item = .ok result) :
    ∃ results, items.mapM f = .ok results ∧ results.length = items.length := by
  induction items with
  | nil => exact ⟨[], rfl, rfl⟩
  | cons first rest ih =>
      obtain ⟨own, firstRan⟩ := each first List.mem_cons_self
      obtain ⟨others, restRan, length⟩ :=
        ih fun item member => each item (List.mem_cons_of_mem _ member)
      refine ⟨own :: others, ?_, ?_⟩
      · rw [List.mapM_cons, firstRan, restRan]
        rfl
      · rw [List.length_cons, List.length_cons, length]

theorem mapM_returns {P : β → Prop} {items : List ι}
    (each : ∀ item ∈ items, ∃ result, f item = .ok result ∧ P result) :
    ∃ results, items.mapM f = .ok results ∧ results.length = items.length ∧
      ∀ result ∈ results, P result := by
  have total : ∀ item ∈ items, ∃ result, f item = .ok result := by
    intro item member
    obtain ⟨result, ran, -⟩ := each item member
    exact ⟨result, ran⟩
  obtain ⟨results, ran, length⟩ := mapM_total total
  refine ⟨results, ran, length, ?_⟩
  intro result listed
  obtain ⟨item, member, itemRan⟩ := mem_of_mapM ran result listed
  obtain ⟨own, ownRan, holds⟩ := each item member
  cases itemRan.symm.trans ownRan
  exact holds

/-- What each result tells of its item, the results tell of the items. -/
theorem map_of_mapM {γ : Type*} {items : List ι} {results : List β} {told : β → γ} {own : ι → γ}
    (ran : items.mapM f = .ok results)
    (same : ∀ item ∈ items, ∀ result, f item = .ok result → told result = own item) :
    results.map told = items.map own := by
  induction items generalizing results with
  | nil =>
      cases ran
      rfl
  | cons first rest ih =>
      rw [List.mapM_cons] at ran
      obtain ⟨result, firstRan, ran⟩ := seq_returns.mp ran
      obtain ⟨others, restRan, made⟩ := seq_returns.mp ran
      cases made
      rw [List.map_cons, List.map_cons, same first List.mem_cons_self result firstRan,
        ih restRan fun item member => same item (List.mem_cons_of_mem _ member)]

/-- A fold over items that change nothing. -/
theorem foldlM_neutral {f : β → ι → Except ε β} {items : List ι} {start : β}
    (neutral : ∀ item ∈ items, ∀ state, f state item = .ok state) :
    items.foldlM f start = .ok start := by
  induction items with
  | nil => rfl
  | cons item rest ih =>
      rw [List.foldlM_cons, neutral item (by simp)]
      exact ih fun other member => neutral other (by simp [member])

/-- A fold over items of which one changes something. -/
theorem foldlM_only {f : β → ι → Except ε β} {front back : List ι} {item : ι} {start : β}
    (neutral : ∀ other, other ∈ front ∨ other ∈ back → ∀ state, f state other = .ok state) :
    (front ++ item :: back).foldlM f start = f start item := by
  rw [List.foldlM_append, foldlM_neutral fun other member => neutral other (Or.inl member)]
  change (item :: back).foldlM f start = f start item
  rw [List.foldlM_cons]
  cases f start item with
  | error raised => rfl
  | ok next => exact foldlM_neutral fun other member => neutral other (Or.inr member)

/-- A loop of checks passes when each check does. -/
theorem forM_ok_iff {check : ι → Except ε PUnit} {items : List ι} :
    items.forM check = .ok ⟨⟩ ↔ ∀ item ∈ items, check item = .ok ⟨⟩ := by
  induction items with
  | nil =>
      refine iff_of_true rfl ?_
      intro item member
      cases member
  | cons first rest ih =>
      rw [List.forall_mem_cons, ← ih]
      change (check first >>= fun _ => rest.forM check) = .ok ⟨⟩ ↔ _
      rw [seq_returns]
      exact ⟨fun ⟨_, own, others⟩ => ⟨own, others⟩, fun ⟨own, others⟩ => ⟨⟨⟩, own, others⟩⟩

end Items
end Except

theorem Checked.make_avoids {α ε : Type*} {Kind : ε → Prop} {checks : α → List (Bool × ε)} {a : α}
    (harmless : Harmless Kind (checks a)) : Except.Avoids Kind (Checked.make checks a) := by
  intro error raised
  exact firstFailure_harmless harmless (Checked.make_eq_error.mp raised)
