import LotusIdea.Foundation.OrderedDict
import Mathlib.Data.List.Flatten

/-!
# An index of actions by their ids

Rows hold lists of actions under caller-chosen ids, and a second dictionary maps
an id to the key of the row that holds it.  Assigning to the index overwrites, so
that the index stays true only while every added action brings an id that no row
holds yet.
-/

set_option autoImplicit false

universe u v w x

section
variable {κ : Type u} {ρ : Type v} {α : Type w} {ι : Type x} [DecidableEq κ] [DecidableEq ι]

/-- No row holds an action with this id. -/
def IdUnheld (actions : ρ → List α) (idOf : α → ι) (rows : Dict κ ρ) (id : ι) : Prop :=
  ∀ key row, rows.get? key = some row → ∀ a ∈ actions row, idOf a ≠ id

/-- Ids are distinct within a row, every action belongs to the row that holds it,
and the index leads from its id to that row. -/
structure ActionIndex (actions : ρ → List α) (idOf : α → ι) (ownerOf : α → κ)
    (rows : Dict κ ρ) (index : Dict ι κ) : Prop where
  distinct : ∀ key row, rows.get? key = some row → ((actions row).map idOf).Nodup
  owned : ∀ key row, rows.get? key = some row → ∀ a ∈ actions row, ownerOf a = key
  resolves : ∀ key row, rows.get? key = some row → ∀ a ∈ actions row,
    index.get? (idOf a) = some key

/-- The rows keep their actions, or one row gains an action whose id is unheld. -/
inductive ActionIndexStep (actions : ρ → List α) (idOf : α → ι) (ownerOf : α → κ)
    (rows : Dict κ ρ) (index : Dict ι κ) : Dict κ ρ → Dict ι κ → Prop where
  | kept {next : Dict κ ρ}
      (present : ∀ key old, rows.get? key = some old → ∃ row, next.get? key = some row)
      (same : ∀ key row, next.get? key = some row →
        (rows.get? key = none ∧ actions row = []) ∨
        ∃ old, rows.get? key = some old ∧ actions row = actions old) :
      ActionIndexStep actions idOf ownerOf rows index next index
  | added {key : κ} {old row : ρ} {a : α} (stored : rows.get? key = some old)
      (grown : actions row = actions old ++ [a]) (own : ownerOf a = key)
      (unheld : IdUnheld actions idOf rows (idOf a)) :
      ActionIndexStep actions idOf ownerOf rows index (rows.set key row)
        (index.set (idOf a) key)

/-- A row is replaced by one with the same actions, or a row without any is added. -/
theorem ActionIndexStep.replaced {actions : ρ → List α} {idOf : α → ι} {ownerOf : α → κ}
    {rows : Dict κ ρ} {index : Dict ι κ} {key : κ} {row : ρ}
    (same : (rows.get? key = none ∧ actions row = []) ∨
      ∃ old, rows.get? key = some old ∧ actions row = actions old) :
    ActionIndexStep actions idOf ownerOf rows index (rows.set key row) index := by
  refine .kept ?_ ?_
  · intro k old stored
    have present : ((rows.set key row).get? k).isSome :=
      Dict.isSome_get?_set key row (by rw [stored]; rfl)
    exact Option.isSome_iff_exists.mp present
  · exact Dict.forall_get?_set (fun k own stored => Or.inr ⟨own, stored, rfl⟩) same

namespace ActionIndex
variable {actions : ρ → List α} {idOf : α → ι} {ownerOf : α → κ} {rows next : Dict κ ρ}
  {index reached : Dict ι κ}

theorem empty : ActionIndex actions idOf ownerOf (Dict.empty : Dict κ ρ) index where
  distinct := by
    intro key row stored
    simp at stored
  owned := by
    intro key row stored
    simp at stored
  resolves := by
    intro key row stored
    simp at stored

theorem step (inv : ActionIndex actions idOf ownerOf rows index)
    (moves : ActionIndexStep actions idOf ownerOf rows index next reached) :
    ActionIndex actions idOf ownerOf next reached := by
  cases moves with
  | kept _ same =>
      refine ⟨?_, ?_, ?_⟩
      · intro key row stored
        rcases same key row stored with ⟨_, none_⟩ | ⟨old, before, held⟩
        · rw [none_]
          exact List.nodup_nil
        · rw [held]
          exact inv.distinct key old before
      · intro key row stored a member
        rcases same key row stored with ⟨_, none_⟩ | ⟨old, before, held⟩
        · rw [none_] at member
          cases member
        · rw [held] at member
          exact inv.owned key old before a member
      · intro key row stored a member
        rcases same key row stored with ⟨_, none_⟩ | ⟨old, before, held⟩
        · rw [none_] at member
          cases member
        · rw [held] at member
          exact inv.resolves key old before a member
  | @added key old row a stored grown own unheld =>
      refine ⟨?_, ?_, ?_⟩
      · refine Dict.forall_get?_set inv.distinct ?_
        rw [grown, List.map_append, List.map_singleton, List.nodup_append]
        refine ⟨inv.distinct key old stored, List.nodup_singleton _, ?_⟩
        intro id member other last same
        obtain ⟨b, held, rfl⟩ := List.mem_map.mp member
        rw [List.mem_singleton] at last
        exact unheld key old stored b held (same.trans last)
      · refine Dict.forall_get?_set inv.owned ?_
        intro b member
        rw [grown, List.mem_append, List.mem_singleton] at member
        rcases member with held | rfl
        · exact inv.owned key old stored b held
        · exact own
      · have earlier : ∀ k r, rows.get? k = some r → ∀ b ∈ actions r,
            (index.set (idOf a) key).get? (idOf b) = some k := by
          intro k r there b member
          rw [Dict.get?_set_of_ne key (unheld k r there b member)]
          exact inv.resolves k r there b member
        refine Dict.forall_get?_set earlier ?_
        intro b member
        rw [grown, List.mem_append, List.mem_singleton] at member
        rcases member with held | rfl
        · exact earlier key old stored b held
        · exact Dict.get?_set_self _ _ _

/-- A step takes no action away from its row. -/
theorem grows (moves : ActionIndexStep actions idOf ownerOf rows index next reached) {key : κ}
    {old : ρ} (stored : rows.get? key = some old) :
    ∃ row, next.get? key = some row ∧ actions old <+: actions row := by
  cases moves with
  | kept present same =>
      obtain ⟨row, there⟩ := present key old stored
      refine ⟨row, there, ?_⟩
      rcases same key row there with ⟨absent, _⟩ | ⟨before, held, equal⟩
      · rw [stored] at absent
        cases absent
      · rw [stored] at held
        cases held
        exact equal ▸ List.prefix_rfl
  | @added own before row a held grown _ _ =>
      by_cases here : key = own
      · subst here
        rw [stored] at held
        cases held
        exact ⟨row, Dict.get?_set_self _ _ _, by rw [grown]; exact List.prefix_append _ _⟩
      · exact ⟨old, by rw [Dict.get?_set_of_ne row here]; exact stored, List.prefix_rfl⟩

/-- Two actions with one id stand in one row. -/
theorem same_row (inv : ActionIndex actions idOf ownerOf rows index) {key other : κ} {row own : ρ}
    (stored : rows.get? key = some row) (there : rows.get? other = some own) {a b : α}
    (held : a ∈ actions row) (also : b ∈ actions own) (same : idOf a = idOf b) : key = other := by
  have first := inv.resolves key row stored a held
  have second := inv.resolves other own there b also
  rw [same, second] at first
  exact (Option.some.inj first).symm

/-- The ids are pairwise distinct over all rows. -/
theorem nodup (inv : ActionIndex actions idOf ownerOf rows index) :
    ((rows.values.flatMap actions).map idOf).Nodup := by
  rw [List.map_flatMap, List.nodup_flatMap]
  constructor
  · intro row member
    obtain ⟨key, stored⟩ := Dict.mem_values_iff.mp member
    exact inv.distinct key row stored
  · have distinctKeys : rows.entries.Pairwise fun e f => e.1 ≠ f.1 :=
      List.pairwise_map.mp rows.nodup
    refine List.pairwise_map.mpr (distinctKeys.imp_of_mem ?_)
    intro e f member also different id first second
    obtain ⟨a, held, isId⟩ := List.mem_map.mp first
    obtain ⟨b, too, isIdToo⟩ := List.mem_map.mp second
    exact different (inv.same_row (Dict.get?_eq_some_iff.mpr member)
      (Dict.get?_eq_some_iff.mpr also) held too (isId.trans isIdToo.symm))

/-- Looking an action up by its id in its row finds the action itself. -/
theorem find (inv : ActionIndex actions idOf ownerOf rows index) {key : κ} {row : ρ}
    (stored : rows.get? key = some row) {a : α} (held : a ∈ actions row) :
    (actions row).find? (fun b => decide (idOf b = idOf a)) = some a := by
  cases found : (actions row).find? (fun b => decide (idOf b = idOf a)) with
  | none =>
      rw [List.find?_eq_none] at found
      exact absurd (decide_eq_true rfl) (found a held)
  | some b =>
      have same : idOf b = idOf a := by simpa using List.find?_some found
      have member := List.mem_of_find?_eq_some found
      rw [List.inj_on_of_nodup_map (inv.distinct key row stored) member held same]

end ActionIndex

/-! ## Ids without an index -/

/-- An id is borne by one action only, within a row and over the rows. -/
structure UniqueIds (actions : ρ → List α) (idOf : α → ι) (rows : Dict κ ρ) : Prop where
  distinct : ∀ key row, rows.get? key = some row → ((actions row).map idOf).Nodup
  apart : ∀ key row, rows.get? key = some row → ∀ a ∈ actions row, ∀ other own,
    rows.get? other = some own → ∀ b ∈ actions own, idOf a = idOf b → key = other

namespace UniqueIds
variable {actions : ρ → List α} {idOf : α → ι} {rows : Dict κ ρ}

theorem empty : UniqueIds actions idOf (Dict.empty : Dict κ ρ) where
  distinct := by
    intro key row stored
    simp at stored
  apart := by
    intro key row stored
    simp at stored

/-- Unique ids are those that some index leads from. -/
theorem of_indexed {ownerOf : α → κ} {index : Dict ι κ}
    (indexed : ActionIndex actions idOf ownerOf rows index) : UniqueIds actions idOf rows where
  distinct := indexed.distinct
  apart := by
    intro key row stored a held other own there b also same
    exact indexed.same_row stored there held also same

/-- A row is replaced by one with the same actions, or a row without any is added. -/
theorem replaced (unique : UniqueIds actions idOf rows) {key : κ} {row : ρ}
    (same : (rows.get? key = none ∧ actions row = []) ∨
      ∃ old, rows.get? key = some old ∧ actions row = actions old) :
    UniqueIds actions idOf (rows.set key row) := by
  have before : ∀ k r, (rows.set key row).get? k = some r → actions r = [] ∨
      ∃ old, rows.get? k = some old ∧ actions r = actions old := by
    refine Dict.forall_get?_set (fun k r stored => Or.inr ⟨r, stored, rfl⟩) ?_
    exact same.imp (fun none_ => none_.2) (fun old => old)
  constructor
  · intro k r stored
    rcases before k r stored with none_ | ⟨old, held, equal⟩
    · rw [none_]
      exact List.nodup_nil
    · rw [equal]
      exact unique.distinct k old held
  · intro k r stored a member other own there b also equal
    rcases before k r stored with none_ | ⟨old, held, sameActions⟩
    · rw [none_] at member
      cases member
    rcases before other own there with none_ | ⟨oldOwn, heldOwn, sameOwn⟩
    · rw [none_] at also
      cases also
    rw [sameActions] at member
    rw [sameOwn] at also
    exact unique.apart k old held a member other oldOwn heldOwn b also equal

/-- A row gains an action with an unheld id. -/
theorem added (unique : UniqueIds actions idOf rows) {key : κ} {old row : ρ} {a : α}
    (stored : rows.get? key = some old) (grown : actions row = actions old ++ [a])
    (unheld : IdUnheld actions idOf rows (idOf a)) :
    UniqueIds actions idOf (rows.set key row) := by
  have before : ∀ k r, (rows.set key row).get? k = some r → ∀ b ∈ actions r,
      (∃ held, rows.get? k = some held ∧ b ∈ actions held) ∨ k = key ∧ b = a := by
    refine Dict.forall_get?_set (fun k r there b member => Or.inl ⟨r, there, member⟩) ?_
    intro b member
    rw [grown, List.mem_append, List.mem_singleton] at member
    exact member.imp (fun held => ⟨old, stored, held⟩) (fun new => ⟨rfl, new⟩)
  constructor
  · refine Dict.forall_get?_set unique.distinct ?_
    rw [grown, List.map_append, List.map_singleton, List.nodup_append]
    refine ⟨unique.distinct key old stored, List.nodup_singleton _, ?_⟩
    intro id member other last same
    obtain ⟨b, held, rfl⟩ := List.mem_map.mp member
    rw [List.mem_singleton] at last
    exact unheld key old stored b held (same.trans last)
  · intro k r there b member other own also c held equal
    rcases before k r there b member with ⟨row₁, stored₁, member₁⟩ | ⟨rfl, rfl⟩
    · rcases before other own also c held with ⟨row₂, stored₂, member₂⟩ | ⟨rfl, rfl⟩
      · exact unique.apart k row₁ stored₁ b member₁ other row₂ stored₂ c member₂ equal
      · exact absurd equal (unheld k row₁ stored₁ b member₁)
    · rcases before other own also c held with ⟨row₂, stored₂, member₂⟩ | ⟨rfl, rfl⟩
      · exact absurd equal.symm (unheld other row₂ stored₂ c member₂)
      · rfl

/-- Two actions with one id, wherever they are held, are one. -/
theorem same_action (unique : UniqueIds actions idOf rows) {key other : κ} {row own : ρ}
    (stored : rows.get? key = some row) (there : rows.get? other = some own) {a b : α}
    (held : a ∈ actions row) (also : b ∈ actions own) (same : idOf a = idOf b) :
    key = other ∧ a = b := by
  have here := unique.apart key row stored a held other own there b also same
  subst here
  rw [stored] at there
  cases there
  exact ⟨rfl, List.inj_on_of_nodup_map (unique.distinct key row stored) held also same⟩

end UniqueIds

/-! ## Looking an action up over all rows -/

/-- The first wanted item over the rows is the only one, in whatever order the rows stand. -/
theorem scan_eq_some_iff {β : Type w} {items : ρ → List β} {wanted : β → Bool} {rows : Dict κ ρ}
    (single : ∀ key row, rows.get? key = some row → ∀ a ∈ items row, wanted a = true →
      ∀ other own, rows.get? other = some own → ∀ b ∈ items own, wanted b = true →
        key = other ∧ a = b)
    {a : β} {row : ρ} :
    rows.values.findSome? (fun r => ((items r).find? wanted).map fun b => (b, r)) =
      some (a, row) ↔ ∃ key, rows.get? key = some row ∧ a ∈ items row ∧ wanted a = true := by
  have found : ∀ b r,
      rows.values.findSome? (fun r => ((items r).find? wanted).map fun b => (b, r)) =
        some (b, r) → ∃ key, rows.get? key = some r ∧ b ∈ items r ∧ wanted b = true := by
    intro b r scan
    obtain ⟨row', member, here⟩ := List.exists_of_findSome?_eq_some scan
    obtain ⟨b', first, pair⟩ := Option.map_eq_some_iff.mp here
    obtain ⟨rfl, rfl⟩ := Prod.mk.inj pair
    obtain ⟨key, stored⟩ := Dict.mem_values_iff.mp member
    exact ⟨key, stored, List.mem_of_find?_eq_some first, List.find?_some first⟩
  constructor
  · exact found a row
  · rintro ⟨key, stored, member, isWanted⟩
    cases scan : rows.values.findSome? (fun r => ((items r).find? wanted).map fun b => (b, r)) with
    | none =>
        have absent := List.findSome?_eq_none_iff.mp scan row (Dict.mem_values_of_get? stored)
        rw [Option.map_eq_none_iff, List.find?_eq_none] at absent
        exact absurd isWanted (absent a member)
    | some pair =>
        obtain ⟨b, own⟩ := pair
        obtain ⟨other, there, also, isWanted'⟩ := found b own scan
        obtain ⟨rfl, rfl⟩ := single key row stored a member isWanted other own there b also isWanted'
        rw [stored] at there
        cases there
        rfl

end
