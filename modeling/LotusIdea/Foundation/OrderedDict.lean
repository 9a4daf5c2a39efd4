import Mathlib.Data.List.Nodup
import Mathlib.Logic.Basic
import Mathlib.Tactic.Tauto

/-!
# Insertion-ordered dictionaries

A dictionary keeps its entries in insertion order: assigning a present key
replaces the value where it stands, assigning a new key appends.  Keys occur
once, which the type carries.
-/

set_option autoImplicit false

universe u v

structure Dict (κ : Type u) (υ : Type v) where
  entries : List (κ × υ)
  nodup : (entries.map Prod.fst).Nodup

namespace Dict
variable {κ : Type u} {υ : Type v}

def empty : Dict κ υ := ⟨[], List.nodup_nil⟩

def keys (d : Dict κ υ) : List κ := d.entries.map Prod.fst

def values (d : Dict κ υ) : List υ := d.entries.map Prod.snd

@[ext] theorem ext {d e : Dict κ υ} (same : d.entries = e.entries) : d = e := by
  cases d
  cases e
  cases same
  rfl

instance [DecidableEq κ] [DecidableEq υ] : DecidableEq (Dict κ υ) := fun d e =>
  decidable_of_iff (d.entries = e.entries) ⟨ext, congrArg entries⟩

variable [DecidableEq κ]

/-- `d.get(key)`. -/
def get? (d : Dict κ υ) (key : κ) : Option υ :=
  (d.entries.find? fun entry => entry.1 = key).map Prod.snd

/-- The entries after `d[key] = value`. -/
def assign (key : κ) (value : υ) : List (κ × υ) → List (κ × υ)
  | [] => [(key, value)]
  | (k, v) :: rest => if k = key then (k, value) :: rest else (k, v) :: assign key value rest

theorem mem_assign_keys {key k : κ} {value : υ} {entries : List (κ × υ)} :
    k ∈ (assign key value entries).map Prod.fst ↔ k = key ∨ k ∈ entries.map Prod.fst := by
  induction entries with
  | nil => simp [assign]
  | cons entry rest ih =>
      obtain ⟨own, v⟩ := entry
      by_cases here : own = key
      · subst here
        simp [assign]
      · simp only [assign, if_neg here, List.map_cons, List.mem_cons, ih]
        tauto

theorem assign_nodup (key : κ) (value : υ) {entries : List (κ × υ)}
    (distinct : (entries.map Prod.fst).Nodup) :
    ((assign key value entries).map Prod.fst).Nodup := by
  induction entries with
  | nil => simp [assign]
  | cons entry rest ih =>
      obtain ⟨own, v⟩ := entry
      simp only [List.map_cons, List.nodup_cons] at distinct
      by_cases here : own = key
      · subst here
        simp only [assign, if_true, List.map_cons, List.nodup_cons]
        exact distinct
      · simp only [assign, if_neg here, List.map_cons, List.nodup_cons]
        refine ⟨?_, ih distinct.2⟩
        rw [mem_assign_keys]
        rintro (same | later)
        · exact here same
        · exact distinct.1 later

/-- `d[key] = value`. -/
def set (d : Dict κ υ) (key : κ) (value : υ) : Dict κ υ :=
  ⟨assign key value d.entries, assign_nodup key value d.nodup⟩

/-! ## Lookup after assignment -/

@[simp] theorem get?_empty (key : κ) : (empty : Dict κ υ).get? key = none := rfl

theorem get?_set (d : Dict κ υ) (key other : κ) (value : υ) :
    (d.set key value).get? other = if other = key then some value else d.get? other := by
  obtain ⟨entries, distinct⟩ := d
  simp only [get?, set]
  clear distinct
  induction entries with
  | nil =>
      by_cases same : other = key
      · simp [assign, same]
      · simp [assign, same, Ne.symm same]
  | cons entry rest ih =>
      obtain ⟨own, v⟩ := entry
      by_cases here : own = key
      · subst here
        by_cases same : other = own
        · simp [assign, same]
        · simp [assign, same, Ne.symm same]
      · by_cases found : own = other
        · subst found
          simp [assign, here]
        · simpa [assign, here, found] using ih

@[simp] theorem get?_set_self (d : Dict κ υ) (key : κ) (value : υ) :
    (d.set key value).get? key = some value := by
  simp [get?_set]

theorem get?_set_of_ne {d : Dict κ υ} {key other : κ} (value : υ) (different : other ≠ key) :
    (d.set key value).get? other = d.get? other := by
  simp [get?_set, different]

/-- An assignment loses no key. -/
theorem isSome_get?_set {d : Dict κ υ} (key : κ) (value : υ) {other : κ}
    (present : (d.get? other).isSome) : ((d.set key value).get? other).isSome := by
  by_cases here : other = key
  · subst here
    rw [get?_set_self]
    rfl
  · rw [get?_set_of_ne value here]
    exact present

theorem get?_eq_some_iff {d : Dict κ υ} {key : κ} {value : υ} :
    d.get? key = some value ↔ (key, value) ∈ d.entries := by
  obtain ⟨entries, distinct⟩ := d
  simp only [get?]
  induction entries with
  | nil => simp
  | cons entry rest ih =>
      obtain ⟨own, v⟩ := entry
      simp only [List.map_cons, List.nodup_cons] at distinct
      by_cases here : own = key
      · subst here
        have absent : (own, value) ∉ rest := fun found =>
          distinct.1 (List.mem_map.mpr ⟨_, found, rfl⟩)
        simp [absent, eq_comm]
      · have skipped : (key, value) ≠ (own, v) := fun same => here (congrArg Prod.fst same).symm
        simpa [here, skipped] using ih distinct.2

theorem get?_eq_none_iff {d : Dict κ υ} {key : κ} : d.get? key = none ↔ key ∉ d.keys := by
  simp only [get?, keys, Option.map_eq_none_iff, List.find?_eq_none, List.mem_map]
  constructor
  · rintro absent ⟨entry, member, same⟩
    exact absent entry member (by simpa using same)
  · intro absent entry member same
    exact absent ⟨entry, member, by simpa using same⟩

theorem mem_values_iff {d : Dict κ υ} {value : υ} :
    value ∈ d.values ↔ ∃ key, d.get? key = some value := by
  simp [values, get?_eq_some_iff]

theorem mem_values_of_get? {d : Dict κ υ} {key : κ} {value : υ} (found : d.get? key = some value) :
    value ∈ d.values :=
  mem_values_iff.mpr ⟨key, found⟩

/-- A new key appends its entry. -/
theorem entries_set_of_fresh {d : Dict κ υ} {key : κ} (value : υ) (fresh : d.get? key = none) :
    (d.set key value).entries = d.entries ++ [(key, value)] := by
  obtain ⟨entries, distinct⟩ := d
  rw [get?_eq_none_iff] at fresh
  simp only [keys] at fresh
  simp only [set]
  clear distinct
  induction entries with
  | nil => rfl
  | cons entry rest ih =>
      obtain ⟨own, v⟩ := entry
      simp only [List.map_cons, List.mem_cons, not_or] at fresh
      simp [assign, Ne.symm fresh.1, ih fresh.2]

/-- The entry of an assignment, and the ones around it. -/
theorem entries_set_split (d : Dict κ υ) (key : κ) (value : υ) : ∃ front back,
    (d.set key value).entries = front ++ (key, value) :: back ∧
      ∀ entry, entry ∈ front ∨ entry ∈ back → entry ∈ d.entries ∧ entry.1 ≠ key := by
  obtain ⟨entries, distinct⟩ := d
  simp only [set]
  induction entries with
  | nil => exact ⟨[], [], rfl, by simp⟩
  | cons entry rest ih =>
      obtain ⟨own, v⟩ := entry
      simp only [List.map_cons, List.nodup_cons] at distinct
      by_cases here : own = key
      · subst here
        refine ⟨[], rest, by simp [assign], ?_⟩
        rintro other (none | later)
        · cases none
        · refine ⟨List.mem_cons_of_mem _ later, ?_⟩
          intro same
          exact distinct.1 (List.mem_map.mpr ⟨other, later, same⟩)
      · obtain ⟨front, back, split, others⟩ := ih distinct.2
        refine ⟨(own, v) :: front, back, by simp [assign, here, split], ?_⟩
        rintro other (first | later)
        · rcases List.mem_cons.mp first with rfl | further
          · exact ⟨List.mem_cons_self, here⟩
          · exact ⟨List.mem_cons_of_mem _ (others other (Or.inl further)).1,
              (others other (Or.inl further)).2⟩
        · exact ⟨List.mem_cons_of_mem _ (others other (Or.inr later)).1,
            (others other (Or.inr later)).2⟩

theorem keys_set_of_fresh {d : Dict κ υ} {key : κ} (value : υ) (fresh : d.get? key = none) :
    (d.set key value).keys = d.keys ++ [key] := by
  simp [keys, entries_set_of_fresh value fresh]

theorem values_set_of_fresh {d : Dict κ υ} {key : κ} (value : υ) (fresh : d.get? key = none) :
    (d.set key value).values = d.values ++ [value] := by
  simp [values, entries_set_of_fresh value fresh]

/-- Assigning a present key keeps the keys and their order. -/
theorem keys_set_of_present {d : Dict κ υ} {key : κ} {old : υ} (value : υ)
    (present : d.get? key = some old) : (d.set key value).keys = d.keys := by
  obtain ⟨entries, distinct⟩ := d
  rw [get?_eq_some_iff] at present
  simp only [keys, set] at present ⊢
  clear distinct
  induction entries with
  | nil => simp at present
  | cons entry rest ih =>
      obtain ⟨own, v⟩ := entry
      by_cases here : own = key
      · simp [assign, here]
      · have further : (key, old) ∈ rest := by
          rcases List.mem_cons.mp present with same | further
          · exact absurd (congrArg Prod.fst same).symm here
          · exact further
        simp [assign, here, ih further]

/-- Every value of `d.set key value` is the assigned one or one of `d`. -/
theorem mem_values_set {d : Dict κ υ} {key : κ} {value found : υ}
    (member : found ∈ (d.set key value).values) : found = value ∨ found ∈ d.values := by
  obtain ⟨at_, stored⟩ := mem_values_iff.mp member
  rw [get?_set] at stored
  split at stored
  · exact Or.inl (Option.some.inj stored).symm
  · exact Or.inr (mem_values_of_get? stored)

/-- A property of all stored pairs survives an assignment that has it. -/
theorem forall_get?_set {d : Dict κ υ} {key : κ} {value : υ} {P : κ → υ → Prop}
    (kept : ∀ k v, d.get? k = some v → P k v) (fresh : P key value) :
    ∀ k v, (d.set key value).get? k = some v → P k v := by
  intro k v stored
  rw [get?_set] at stored
  split at stored
  · rename_i same
    subst same
    exact Option.some.inj stored ▸ fresh
  · exact kept k v stored

/-! ## Dictionaries filled from items -/

section
variable {α : Type} (key : α → κ) (value : α → υ)

theorem get?_fill_of_not_mem {items : List α} {k : κ} (absent : k ∉ items.map key)
    (d : Dict κ υ) :
    (items.foldl (fun filled item => filled.set (key item) (value item)) d).get? k =
      d.get? k := by
  induction items generalizing d with
  | nil => rfl
  | cons item rest ih =>
      rw [List.map_cons, List.mem_cons, not_or] at absent
      rw [List.foldl_cons, ih absent.2, get?_set_of_ne _ absent.1]

/-- An item assigned under a key of its own is found there. -/
theorem get?_fill {items : List α} (distinct : (items.map key).Nodup) {item : α}
    (member : item ∈ items) (d : Dict κ υ) :
    (items.foldl (fun filled item => filled.set (key item) (value item)) d).get? (key item) =
      some (value item) := by
  induction items generalizing d with
  | nil => cases member
  | cons first rest ih =>
      rw [List.map_cons, List.nodup_cons] at distinct
      rw [List.foldl_cons]
      rcases List.mem_cons.mp member with rfl | later
      · rw [get?_fill_of_not_mem key value distinct.1, get?_set_self]
      · exact ih distinct.2 later _

end

end Dict
