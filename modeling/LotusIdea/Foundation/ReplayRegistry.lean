import LotusIdea.Foundation.OrderedDict

/-!
# Registries of identities that are used once

A registry binds every identity it has seen to one owner.  An entry is an owner
with the identities it uses; it conflicts when another owner holds one of them.
A registry represents the entries it was made from, and any list of entries that
a registry represents can be replayed from nothing into the same bindings.
-/

set_option autoImplicit false

universe u v

variable {ι : Type u} {ω : Type v} [DecidableEq ι] [DecidableEq ω]

abbrev ReplayRegistry (ι : Type u) (ω : Type v) := Dict ι ω

namespace ReplayRegistry

def conflicts (registry : ReplayRegistry ι ω) (owner : ω) (identities : List ι) : Bool :=
  identities.any fun identity => (registry.get? identity).any fun existing => existing ≠ owner

def record (registry : ReplayRegistry ι ω) (owner : ω) (identities : List ι) :
    ReplayRegistry ι ω :=
  identities.foldl (fun bindings identity => Dict.set bindings identity owner) registry

/-- Replay the entries in order; nothing when one of them conflicts. -/
def restore (registry : ReplayRegistry ι ω) : List (ω × List ι) → Option (ReplayRegistry ι ω)
  | [] => some registry
  | (owner, identities) :: rest =>
      if conflicts registry owner identities then none
      else restore (record registry owner identities) rest

omit [DecidableEq ω] in
theorem get?_record (registry : ReplayRegistry ι ω) (owner : ω) (identities : List ι)
    (identity : ι) :
    (record registry owner identities).get? identity =
      if identity ∈ identities then some owner else registry.get? identity := by
  unfold record
  induction identities generalizing registry with
  | nil => simp
  | cons head rest ih =>
      rw [List.foldl_cons, ih]
      by_cases later : identity ∈ rest
      · simp [later]
      · by_cases here : identity = head
        · subst here
          simp [later]
        · simp only [later, if_false, List.mem_cons, here, false_or]
          exact Dict.get?_set_of_ne owner here

theorem conflicts_eq_false {registry : ReplayRegistry ι ω} {owner : ω} {identities : List ι} :
    conflicts registry owner identities = false ↔
      ∀ identity ∈ identities, ∀ existing, registry.get? identity = some existing →
        existing = owner := by
  constructor
  · intro free identity member existing held
    by_contra other
    have taken : conflicts registry owner identities = true :=
      List.any_eq_true.mpr ⟨identity, member, by rw [held]; simpa using other⟩
    rw [free] at taken
    cases taken
  · intro own
    by_contra taken
    rw [Bool.not_eq_false] at taken
    obtain ⟨identity, member, held⟩ := List.any_eq_true.mp taken
    obtain ⟨existing, found, other⟩ := (Option.any_eq_true _ _).mp held
    have same := own identity member existing found
    simp [same] at other

/-- The bindings are those that the entries ask for. -/
def Represents (registry : ReplayRegistry ι ω) (entries : List (ω × List ι)) : Prop :=
  ∀ identity owner, registry.get? identity = some owner ↔
    ∃ entry ∈ entries, entry.1 = owner ∧ identity ∈ entry.2

omit [DecidableEq ω] in
theorem represents_empty : Represents (Dict.empty : ReplayRegistry ι ω) [] := by
  intro identity owner
  simp

/-- Recording an entry that does not conflict adds it to what is represented. -/
theorem Represents.record {registry : ReplayRegistry ι ω} {entries : List (ω × List ι)}
    (represents : Represents registry entries) {owner : ω} {identities : List ι}
    (free : conflicts registry owner identities = false) :
    Represents (record registry owner identities) (entries ++ [(owner, identities)]) := by
  intro identity holder
  rw [get?_record]
  by_cases own : identity ∈ identities
  · rw [if_pos own]
    constructor
    · intro same
      cases same
      exact ⟨_, List.mem_append_right _ (List.mem_singleton.mpr rfl), rfl, own⟩
    · rintro ⟨entry, member, rfl, held⟩
      rcases List.mem_append.mp member with before | now
      · have bound := (represents identity entry.1).mpr ⟨entry, before, rfl, held⟩
        rw [conflicts_eq_false.mp free identity own _ bound]
      · cases List.mem_singleton.mp now
        rfl
  · rw [if_neg own, represents identity holder]
    constructor
    · rintro ⟨entry, member, named, held⟩
      exact ⟨entry, List.mem_append_left _ member, named, held⟩
    · rintro ⟨entry, member, named, held⟩
      rcases List.mem_append.mp member with before | now
      · exact ⟨entry, before, named, held⟩
      · cases List.mem_singleton.mp now
        exact absurd held own

/-- No two owners share an identity. -/
def Consistent (entries : List (ω × List ι)) : Prop :=
  ∀ a ∈ entries, ∀ b ∈ entries, ∀ identity ∈ a.2, identity ∈ b.2 → a.1 = b.1

omit [DecidableEq ω] in
theorem Represents.consistent {registry : ReplayRegistry ι ω} {entries : List (ω × List ι)}
    (represents : Represents registry entries) : Consistent entries := by
  intro a memberA b memberB identity inA inB
  have boundA := (represents identity a.1).mpr ⟨a, memberA, rfl, inA⟩
  have boundB := (represents identity b.1).mpr ⟨b, memberB, rfl, inB⟩
  rw [boundA] at boundB
  exact Option.some.inj boundB

/-- Consistent entries replay on top of the entries before them. -/
theorem restore_of_consistent {registry : ReplayRegistry ι ω}
    {before entries : List (ω × List ι)} (represents : Represents registry before)
    (consistent : Consistent (before ++ entries)) :
    ∃ restored, restore registry entries = some restored ∧
      Represents restored (before ++ entries) := by
  induction entries generalizing registry before with
  | nil => exact ⟨registry, rfl, by rw [List.append_nil]; exact represents⟩
  | cons entry rest ih =>
      obtain ⟨owner, identities⟩ := entry
      have free : conflicts registry owner identities = false := by
        rw [conflicts_eq_false]
        intro identity own existing bound
        obtain ⟨holder, member, named, held⟩ := (represents identity existing).mp bound
        have same := consistent holder (List.mem_append_left _ member) (owner, identities)
          (List.mem_append_right _ List.mem_cons_self) identity held own
        rw [← named]
        exact same
      obtain ⟨restored, replayed, represented⟩ := ih (represents.record free)
        (by rw [List.append_assoc]; exact consistent)
      refine ⟨restored, ?_, ?_⟩
      · simp only [restore, free, Bool.false_eq_true, if_false]
        exact replayed
      · rw [List.append_assoc] at represented
        exact represented

/-- The entries of one registry, in any order, rebuild its bindings from nothing. -/
theorem restore_of_represents {registry : ReplayRegistry ι ω} {entries : List (ω × List ι)}
    (represents : Represents registry entries) :
    ∃ restored, restore (Dict.empty : ReplayRegistry ι ω) entries = some restored ∧
      ∀ identity, restored.get? identity = registry.get? identity := by
  obtain ⟨restored, replayed, represented⟩ :=
    restore_of_consistent represents_empty represents.consistent
  refine ⟨restored, replayed, ?_⟩
  intro identity
  apply Option.ext
  intro owner
  rw [represented identity owner, represents identity owner, List.nil_append]

end ReplayRegistry
