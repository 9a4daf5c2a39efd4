import LotusIdea.Foundation.Checked
import LotusIdea.Foundation.OrderedDict

/-!
# Tables that rows are inserted into

A row goes in under a free key, when what it refers to is there.  Inserts that end well
have appended their rows, and of an owner's rows they have appended that owner's.
-/

set_option autoImplicit false

universe u v w

namespace KeyedTable

section Inserts
variable {κ : Type u} {α : Type v} {ε : Type w} [DecidableEq κ]
variable (refers : α → Bool) (taken : κ → ε) (missing : ε)

def insert (table : Dict κ α) (row : κ × α) : Except ε (Dict κ α) :=
  match table.get? row.1 with
  | some _ => .error (taken row.1)
  | none => if refers row.2 then .ok (table.set row.1 row.2) else .error missing

def insertAll (table : Dict κ α) (rows : List (κ × α)) : Except ε (Dict κ α) :=
  rows.foldlM (insert refers taken missing) table

variable {refers taken missing} {table next : Dict κ α}

theorem insert_eq_ok {row : κ × α} : insert refers taken missing table row = .ok next ↔
    table.get? row.1 = none ∧ refers row.2 = true ∧ next = table.set row.1 row.2 := by
  unfold insert
  cases found : table.get? row.1 with
  | some _ => simp
  | none =>
      by_cases present : refers row.2 = true
      · simp [present, eq_comm]
      · simp [present]

@[simp] theorem insertAll_nil : insertAll refers taken missing table [] = .ok table := rfl

theorem insertAll_cons {row : κ × α} {rows : List (κ × α)} :
    insertAll refers taken missing table (row :: rows) = .ok next ↔
      ∃ middle, insert refers taken missing table row = .ok middle ∧
        insertAll refers taken missing middle rows = .ok next := by
  simp only [insertAll, List.foldlM_cons]
  exact Except.seq_returns

/-- Inserts append their rows. -/
theorem insertAll_entries {rows : List (κ × α)}
    (ran : insertAll refers taken missing table rows = .ok next) :
    next.entries = table.entries ++ rows := by
  induction rows generalizing table with
  | nil =>
      cases ran
      simp
  | cons row rest ih =>
      obtain ⟨middle, inserted, ran⟩ := insertAll_cons.mp ran
      obtain ⟨free, _, rfl⟩ := insert_eq_ok.mp inserted
      rw [ih ran, Dict.entries_set_of_fresh _ free, List.append_assoc, List.singleton_append]

theorem insertAll_refers {rows : List (κ × α)}
    (ran : insertAll refers taken missing table rows = .ok next) :
    ∀ row ∈ rows, refers row.2 = true := by
  induction rows generalizing table with
  | nil => simp
  | cons row rest ih =>
      obtain ⟨middle, inserted, ran⟩ := insertAll_cons.mp ran
      rintro other member
      rcases List.mem_cons.mp member with rfl | later
      · exact (insert_eq_ok.mp inserted).2.1
      · exact ih ran other later

end Inserts

/-! ## Rows with an owner -/

structure Owned (ω : Type u) (α : Type v) where
  owner : ω
  value : α
  deriving DecidableEq

section Owners
variable {κ : Type u} {ω : Type v} {α : Type w} [DecidableEq ω]

/-- What a table holds of one owner, in the order of the inserts. -/
def valuesOf (table : Dict κ (Owned ω α)) (owner : ω) : List α :=
  (table.values.filter fun row => row.owner = owner).map fun row => row.value

variable {table next : Dict κ (Owned ω α)} {rows : List (κ × Owned ω α)} {owner : ω}

theorem valuesOf_appended (appended : next.entries = table.entries ++ rows) :
    valuesOf next owner = valuesOf table owner ++
      ((rows.map Prod.snd).filter fun row => row.owner = owner).map fun row => row.value := by
  simp only [valuesOf, Dict.values, appended, List.map_append, List.filter_append]

theorem valuesOf_own (appended : next.entries = table.entries ++ rows)
    (own : ∀ row ∈ rows, row.2.owner = owner) :
    valuesOf next owner = valuesOf table owner ++ rows.map fun row => row.2.value := by
  have all : ((rows.map Prod.snd).filter fun row => row.owner = owner) = rows.map Prod.snd := by
    rw [List.filter_eq_self]
    intro row member
    obtain ⟨entry, listed, rfl⟩ := List.mem_map.mp member
    simpa using own entry listed
  rw [valuesOf_appended appended, all, List.map_map]
  rfl

theorem valuesOf_other (appended : next.entries = table.entries ++ rows)
    (others : ∀ row ∈ rows, row.2.owner ≠ owner) : valuesOf next owner = valuesOf table owner := by
  have none : ((rows.map Prod.snd).filter fun row => row.owner = owner) = [] := by
    rw [List.filter_eq_nil_iff]
    intro row member
    obtain ⟨entry, listed, rfl⟩ := List.mem_map.mp member
    simpa using others entry listed
  rw [valuesOf_appended appended, none, List.map_nil, List.append_nil]

/-- Rows of one owner were appended. -/
def Grown (table next : Dict κ (Owned ω α)) (owner : ω) (values : List α) : Prop :=
  ∃ rows, next.entries = table.entries ++ rows ∧ (∀ row ∈ rows, row.2.owner = owner) ∧
    rows.map (fun row => row.2.value) = values

namespace Grown
variable {values : List α}

omit [DecidableEq ω] in
theorem refl (table : Dict κ (Owned ω α)) (owner : ω) : Grown table table owner [] := by
  refine ⟨[], by simp, ?_, rfl⟩
  intro row member
  cases member

theorem own (grown : Grown table next owner values) :
    valuesOf next owner = valuesOf table owner ++ values := by
  obtain ⟨rows, appended, mine, rfl⟩ := grown
  exact valuesOf_own appended mine

theorem other {second : ω} (grown : Grown table next owner values) (different : second ≠ owner) :
    valuesOf next second = valuesOf table second := by
  obtain ⟨rows, appended, mine, -⟩ := grown
  refine valuesOf_other appended ?_
  intro row member same
  exact different (same.symm.trans (mine row member))

omit [DecidableEq ω] in
theorem mem_values (grown : Grown table next owner values) {row : Owned ω α}
    (member : row ∈ next.values) :
    row ∈ table.values ∨ row.owner = owner ∧ row.value ∈ values := by
  obtain ⟨rows, appended, mine, rfl⟩ := grown
  rw [Dict.values, appended, List.map_append, List.mem_append] at member
  rcases member with old | new
  · exact Or.inl old
  · obtain ⟨entry, listed, rfl⟩ := List.mem_map.mp new
    exact Or.inr ⟨mine entry listed, List.mem_map.mpr ⟨entry, listed, rfl⟩⟩

omit [DecidableEq ω] in
theorem get?_kept [DecidableEq κ] (grown : Grown table next owner values) {key : κ}
    {row : Owned ω α} (found : table.get? key = some row) : next.get? key = some row := by
  obtain ⟨rows, appended, -, -⟩ := grown
  rw [Dict.get?_eq_some_iff, appended, List.mem_append]
  exact Or.inl (Dict.get?_eq_some_iff.mp found)

end Grown

/-- An owner without rows has no values. -/
theorem valuesOf_eq_nil (absent : ∀ row ∈ table.values, row.owner ≠ owner) :
    valuesOf table owner = [] := by
  rw [valuesOf, List.map_eq_nil_iff, List.filter_eq_nil_iff]
  intro row member
  simpa using absent row member

end Owners

end KeyedTable
