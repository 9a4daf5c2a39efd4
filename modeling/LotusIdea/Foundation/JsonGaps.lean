import LotusIdea.Foundation.JsonPayload

/-!
# Gaps in a stored payload

A field of an older payload may be missing, or may be null.  What a decoder reads
then, and the payload that is left of a full one when fields are taken out of it.
-/

set_option autoImplicit false

namespace Json

inductive Gap where
  | missing
  | null
  | present
  deriving DecidableEq, Repr

/-- What stands at the end of a path of keys. -/
def gapAt : Json → List String → Gap
  | .null, [] => .null
  | _, [] => .present
  | .obj fields, key :: path =>
      match field? fields key with
      | none => .missing
      | some value => gapAt value path
  | _, _ :: _ => .missing

theorem gapAt_eq_null {value : Json} : gapAt value [] = .null ↔ value = .null := by
  cases value <;> simp [gapAt]

theorem ne_null_of_gapAt {value : Json} (there : gapAt value [] = .present) : value ≠ .null := by
  intro null
  rw [null] at there
  cases there

theorem gapAt_of_ne_null {value : Json} (shown : value ≠ .null) : gapAt value [] = .present := by
  cases value <;> simp_all [gapAt]

theorem gapAt_field {fields : List (String × Json)} {key : String} {value : Json}
    (found : field? fields key = some value) (path : List String) :
    gapAt (.obj fields) (key :: path) = gapAt value path := by
  simp [gapAt, found]

section Reading
variable {ε α : Type} {read : Json → Except (DecodeError ε) α} {payload : Json} {key : String}
  {a : α}

/-- A required field is there when it is read. -/
theorem item_returns (run : item read payload key = .ok a) :
    ∃ fields value, payload = .obj fields ∧ field? fields key = some value ∧
      read value = .ok a := by
  simp only [item] at run
  obtain ⟨value, found, ran⟩ := Except.seq_returns.mp run
  cases payload with
  | obj fields =>
      cases lookup : field? fields key with
      | none => simp [lookup] at found
      | some stored =>
          simp only [getItem_obj, lookup, Except.ok.injEq] at found
          rw [← found] at ran
          exact ⟨fields, stored, rfl, lookup, ran⟩
  | null | bool _ | int _ | str _ | arr _ => cases found

theorem item_not_missing (run : item read payload key = .ok a) :
    gapAt payload [key] ≠ .missing := by
  obtain ⟨fields, value, rfl, found, _⟩ := item_returns run
  rw [gapAt_field found]
  cases value <;> simp [gapAt]

theorem item_of_null (run : item read payload key = .ok a) (gap : gapAt payload [key] = .null) :
    read .null = .ok a := by
  obtain ⟨fields, value, rfl, found, ran⟩ := item_returns run
  rw [gapAt_field found, gapAt_eq_null] at gap
  exact gap ▸ ran

theorem itemOr_of_missing {default : Json} (run : itemOr read payload key default = .ok a)
    (gap : gapAt payload [key] = .missing) : read default = .ok a := by
  simp only [itemOr] at run
  obtain ⟨value, found, ran⟩ := Except.seq_returns.mp run
  cases payload with
  | obj fields =>
      cases lookup : field? fields key with
      | none =>
          simp only [getOr_obj, lookup, Option.getD_none, Except.ok.injEq] at found
          exact found ▸ ran
      | some stored =>
          rw [gapAt_field lookup] at gap
          cases stored <;> simp [gapAt] at gap
  | null | bool _ | int _ | str _ | arr _ => cases found

theorem itemOr_of_null {default : Json} (run : itemOr read payload key default = .ok a)
    (gap : gapAt payload [key] = .null) : read .null = .ok a := by
  simp only [itemOr] at run
  obtain ⟨value, found, ran⟩ := Except.seq_returns.mp run
  cases payload with
  | obj fields =>
      cases lookup : field? fields key with
      | none => simp [gapAt, lookup] at gap
      | some stored =>
          rw [gapAt_field lookup, gapAt_eq_null] at gap
          simp only [getOr_obj, lookup, Option.getD_some, Except.ok.injEq] at found
          rw [← found, gap] at ran
          exact ran
  | null | bool _ | int _ | str _ | arr _ => cases found

/-- A field that may be absent is read as none unless it is there. -/
theorem optionalItem_of_gap {value : Option α} (run : optionalItem read payload key = .ok value)
    (gap : gapAt payload [key] ≠ .present) : value = none := by
  simp only [optionalItem] at run
  obtain ⟨given, found, ran⟩ := Except.seq_returns.mp run
  have absent : given = .null := by
    cases payload with
    | obj fields =>
        cases lookup : field? fields key with
        | none => simpa [lookup] using found.symm
        | some stored =>
            rw [gapAt_field lookup] at gap
            by_contra shown
            simp only [getOr_obj, lookup, Option.getD_some, Except.ok.injEq] at found
            exact gap (gapAt_of_ne_null (found ▸ shown))
    | null | bool _ | int _ | str _ | arr _ => cases found
  rw [absent] at ran
  cases ran
  rfl

theorem optionalItem_returns (run : optionalItem read payload key = .ok (some a)) :
    ∃ fields value, payload = .obj fields ∧ field? fields key = some value ∧
      read value = .ok a := by
  simp only [optionalItem] at run
  obtain ⟨given, found, ran⟩ := Except.seq_returns.mp run
  have reads : read given = .ok a := by
    cases given with
    | null => cases ran
    | bool _ | int _ | str _ | arr _ | obj _ =>
        simp only [readOptional] at ran
        cases reading : read _ with
        | error raised =>
            rw [reading] at ran
            cases ran
        | ok held =>
            rw [reading] at ran
            cases ran
            rfl
  cases payload with
  | obj fields =>
      cases lookup : field? fields key with
      | none =>
          simp only [getOr_obj, lookup, Option.getD_none, Except.ok.injEq] at found
          rw [← found] at ran
          cases ran
      | some stored =>
          simp only [getOr_obj, lookup, Option.getD_some, Except.ok.injEq] at found
          rw [← found] at reads
          exact ⟨fields, stored, rfl, lookup, reads⟩
  | null | bool _ | int _ | str _ | arr _ => cases found

end Reading

/-! ## Taking fields out of a payload -/

/-- The fields of an object. -/
def objectFields : Json → List (String × Json)
  | .obj fields => fields
  | _ => []

/-- The fields that are left when some are taken out and others set to null. -/
def thin (gaps : String → Gap) : List (String × Json) → List (String × Json)
  | [] => []
  | (key, value) :: rest =>
      match gaps key with
      | .missing => thin gaps rest
      | .null => (key, .null) :: thin gaps rest
      | .present => (key, value) :: thin gaps rest

theorem field?_thin (gaps : String → Gap) (fields : List (String × Json)) (key : String) :
    field? (thin gaps fields) key =
      match gaps key with
      | .missing => none
      | .null => (field? fields key).map fun _ => .null
      | .present => field? fields key := by
  induction fields with
  | nil => cases gaps key <;> rfl
  | cons head rest ih =>
      obtain ⟨name, value⟩ := head
      by_cases here : name = key
      · subst here
        cases gap : gaps name with
        | missing => simpa [thin, gap] using ih
        | null => simp [thin, gap]
        | present => simp [thin, gap]
      · cases gap : gaps name with
        | missing => simpa [thin, gap, here] using ih
        | null => simpa [thin, gap, here] using ih
        | present => simpa [thin, gap, here] using ih

theorem gapAt_thin {gaps : String → Gap} {fields : List (String × Json)} {key : String}
    {value : Json} (found : field? fields key = some value) (shown : value ≠ .null) :
    gapAt (.obj (thin gaps fields)) [key] = gaps key := by
  have lookup := field?_thin gaps fields key
  cases gap : gaps key with
  | missing => simp [gapAt, lookup, gap]
  | null => simp [gapAt, lookup, gap, found]
  | present =>
      rw [gap, found] at lookup
      rw [gapAt_field lookup, gapAt_of_ne_null shown]

section Thin
variable {ε α : Type} {read : Json → Except (DecodeError ε) α} {gaps : String → Gap}
  {fields : List (String × Json)} {key : String} {value : Json}

/-- A field that is kept is read as before. -/
theorem item_thin_present (kept : gaps key = .present) :
    item read (.obj (thin gaps fields)) key = item read (.obj fields) key := by
  simp only [item, getItem_obj, field?_thin, kept]

theorem itemOr_thin_present {default : Json} (kept : gaps key = .present) :
    itemOr read (.obj (thin gaps fields)) key default = itemOr read (.obj fields) key default := by
  simp only [itemOr, getOr_obj, field?_thin, kept]

theorem optionalItem_thin_present (kept : gaps key = .present) :
    optionalItem read (.obj (thin gaps fields)) key = optionalItem read (.obj fields) key := by
  simp only [optionalItem, getOr_obj, field?_thin, kept]

/-- So is a field that is set to null, when null reads like its value. -/
theorem item_thin (found : field? fields key = some value) (kept : gaps key ≠ .missing)
    (null : read .null = read value) :
    item read (.obj (thin gaps fields)) key = item read (.obj fields) key := by
  have lookup := field?_thin gaps fields key
  cases gap : gaps key with
  | missing => exact absurd gap kept
  | null =>
      rw [gap, found] at lookup
      rw [item_obj lookup, item_obj found]
      exact null
  | present => exact item_thin_present gap

/-- And one that is taken out, when the default reads like its value. -/
theorem itemOr_thin {default : Json} (found : field? fields key = some value)
    (missing : gaps key = .missing → read default = read value)
    (null : gaps key = .null → read .null = read value) :
    itemOr read (.obj (thin gaps fields)) key default = itemOr read (.obj fields) key default := by
  have lookup := field?_thin gaps fields key
  cases gap : gaps key with
  | missing =>
      rw [gap] at lookup
      rw [itemOr_obj found]
      simp only [itemOr, getOr_obj, lookup, Option.getD_none, ok_bind]
      exact missing gap
  | null =>
      rw [gap, found] at lookup
      rw [itemOr_obj lookup, itemOr_obj found]
      exact null gap
  | present => exact itemOr_thin_present gap

end Thin

/-- The fields with the value of one key replaced. -/
def replaceField (key : String) (value : Json) : List (String × Json) → List (String × Json)
  | [] => []
  | (name, stored) :: rest =>
      if name = key then (name, value) :: rest else (name, stored) :: replaceField key value rest

section Replace
variable {ε α : Type} {read : Json → Except (DecodeError ε) α} {fields : List (String × Json)}
  {key other : String} {value : Json}

theorem field?_replaceField (found : (field? fields key).isSome = true) :
    field? (replaceField key value fields) key = some value := by
  induction fields with
  | nil => cases found
  | cons head rest ih =>
      obtain ⟨name, stored⟩ := head
      by_cases here : name = key
      · simp [replaceField, here]
      · have later : (field? rest key).isSome = true := by simpa [here] using found
        simpa [replaceField, here] using ih later

theorem field?_replaceField_of_ne (apart : other ≠ key) :
    field? (replaceField key value fields) other = field? fields other := by
  induction fields with
  | nil => rfl
  | cons head rest ih =>
      obtain ⟨name, stored⟩ := head
      by_cases here : name = key
      · have elsewhere : name ≠ other := fun same => apart (same.symm.trans here)
        subst here
        simp [replaceField, elsewhere]
      · by_cases there : name = other
        · subst there
          simp [replaceField, here]
        · simpa [replaceField, here, there] using ih

theorem item_replaceField_of_ne (apart : other ≠ key) :
    item read (.obj (replaceField key value fields)) other = item read (.obj fields) other := by
  simp only [item, getItem_obj, field?_replaceField_of_ne apart]

theorem itemOr_replaceField_of_ne {default : Json} (apart : other ≠ key) :
    itemOr read (.obj (replaceField key value fields)) other default =
      itemOr read (.obj fields) other default := by
  simp only [itemOr, getOr_obj, field?_replaceField_of_ne apart]

theorem optionalItem_replaceField_of_ne (apart : other ≠ key) :
    optionalItem read (.obj (replaceField key value fields)) other =
      optionalItem read (.obj fields) other := by
  simp only [optionalItem, getOr_obj, field?_replaceField_of_ne apart]

end Replace

end Json
