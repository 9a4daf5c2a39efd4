import LotusIdea.Foundation.JsonPayload

/-!
# Predicates over rows

A predicate of a query is true, false or unknown, and a row is selected when it is
true.  Absent columns, absent keys of a JSON column and JSON nulls make a predicate
unknown in their own ways.
-/

set_option autoImplicit false

namespace Sql

/-- True, false, or unknown. -/
abbrev Truth := Option Bool

/-! ## Connectives -/

def both : Truth → Truth → Truth
  | some false, _ => some false
  | _, some false => some false
  | some true, some true => some true
  | _, _ => none

def either : Truth → Truth → Truth
  | some true, _ => some true
  | _, some true => some true
  | some false, some false => some false
  | _, _ => none

/-- `NOT`. -/
def negate (t : Truth) : Truth := t.map not

/-- The terms joined by `AND`. -/
def conj (terms : List Truth) : Truth := terms.foldr both (some true)

/-- The terms joined by `OR`. -/
def disj (terms : List Truth) : Truth := terms.foldr either (some false)

@[simp] theorem both_true (a b : Truth) : both a b = some true ↔ a = some true ∧ b = some true := by
  cases a with
  | none => cases b with
    | none => simp [both]
    | some b => cases b <;> simp [both]
  | some a => cases a <;> cases b with
    | none => simp [both]
    | some b => cases b <;> simp [both]

@[simp] theorem either_true (a b : Truth) :
    either a b = some true ↔ a = some true ∨ b = some true := by
  cases a with
  | none => cases b with
    | none => simp [either]
    | some b => cases b <;> simp [either]
  | some a => cases a <;> cases b with
    | none => simp [either]
    | some b => cases b <;> simp [either]

@[simp] theorem negate_true (t : Truth) : negate t = some true ↔ t = some false := by
  cases t with
  | none => simp [negate]
  | some b => cases b <;> simp [negate]

@[simp] theorem conj_nil : conj [] = some true := rfl

@[simp] theorem conj_cons_true (t : Truth) (rest : List Truth) :
    conj (t :: rest) = some true ↔ t = some true ∧ conj rest = some true :=
  both_true t (conj rest)

theorem conj_true {terms : List Truth} : conj terms = some true ↔ ∀ t ∈ terms, t = some true := by
  induction terms with
  | nil => simp
  | cons t rest ih => rw [conj_cons_true, ih, List.forall_mem_cons]

@[simp] theorem disj_nil : disj [] = some false := rfl

@[simp] theorem disj_cons_true (t : Truth) (rest : List Truth) :
    disj (t :: rest) = some true ↔ t = some true ∨ disj rest = some true :=
  either_true t (disj rest)

theorem disj_true {terms : List Truth} : disj terms = some true ↔ ∃ t ∈ terms, t = some true := by
  induction terms with
  | nil => simp
  | cons t rest ih => rw [disj_cons_true, ih, List.exists_mem_cons_iff]

/-! ## Comparisons -/

section
variable {α : Type} [DecidableEq α]

/-- `a = b`, unknown when either is NULL. -/
def equal (a b : Option α) : Truth := a.bind fun x => b.map fun y => decide (x = y)

/-- `a = ANY(values)`. -/
def oneOf (a : Option α) (values : List α) : Truth := a.map fun x => decide (x ∈ values)

@[simp] theorem equal_some (x y : α) : equal (some x) (some y) = some (decide (x = y)) := rfl

@[simp] theorem equal_none (a : Option α) : equal a none = none := by
  cases a <;> rfl

@[simp] theorem none_equal (a : Option α) : equal none a = none := rfl

@[simp] theorem oneOf_some (x : α) (values : List α) :
    oneOf (some x) values = some (decide (x ∈ values)) := rfl

@[simp] theorem oneOf_none (values : List α) : oneOf none values = none := rfl

end

/-- Members of an enumeration are compared by their texts. -/
theorem equal_value {α : Type} [PyEnum α] (a b : α) :
    equal (some (PyEnum.value a)) (some (PyEnum.value b)) = some true ↔ a = b := by
  rw [equal_some, Option.some.injEq, decide_eq_true_eq]
  exact ⟨PyEnum.value_injective, congrArg PyEnum.value⟩

theorem oneOf_values {α : Type} [PyEnum α] (a : α) (members : List α) :
    oneOf (some (PyEnum.value a)) (members.map PyEnum.value) = some true ↔ a ∈ members := by
  rw [oneOf_some, Option.some.injEq, decide_eq_true_eq]
  refine ⟨fun listed => ?_, List.mem_map_of_mem⟩
  obtain ⟨member, given, same⟩ := List.mem_map.mp listed
  exact PyEnum.value_injective same ▸ given

theorem negate_not_true (t : Truth) (known : t.isSome = true) :
    negate t = some true ↔ ¬ t = some true := by
  cases t with
  | none => cases known
  | some b => cases b <;> simp [negate]

/-- `COALESCE`: the first value that is not NULL. -/
def coalesce {α : Type} (values : List (Option α)) : Option α := values.findSome? id

@[simp] theorem coalesce_some {α : Type} (x : α) (rest : List (Option α)) :
    coalesce (some x :: rest) = some x := rfl

@[simp] theorem coalesce_none {α : Type} (rest : List (Option α)) :
    coalesce (none :: rest) = coalesce rest := rfl

/-- A last value that is not NULL is the default of the others. -/
theorem coalesce_default {α : Type} (value : Option α) (default : α) :
    coalesce [value, some default] = some (value.getD default) := by
  cases value <;> rfl

def isNull {α : Type} (a : Option α) : Truth := some a.isNone

def isNotNull {α : Type} (a : Option α) : Truth := some a.isSome

/-- `a <= b` between timestamps. -/
def notAfter (a b : Option DateTime) : Truth :=
  a.bind fun x => b.map fun y => decide (x.instant ≤ y.instant)

/-- `a > b` between timestamps. -/
def later (a b : Option DateTime) : Truth :=
  a.bind fun x => b.map fun y => decide (y.instant < x.instant)

@[simp] theorem notAfter_some (x y : DateTime) :
    notAfter (some x) (some y) = some (decide (x.instant ≤ y.instant)) := rfl

@[simp] theorem none_notAfter (b : Option DateTime) : notAfter none b = none := rfl

@[simp] theorem later_some (x y : DateTime) :
    later (some x) (some y) = some (decide (y.instant < x.instant)) := rfl

@[simp] theorem none_later (b : Option DateTime) : later none b = none := rfl

/-- The value of the first branch of a `CASE` whose condition is true. -/
def caseWhen {α : Type} : List (Truth × α) → Option α
  | [] => none
  | (condition, value) :: rest => if condition = some true then some value else caseWhen rest

/-- A `CASE` is a list of checks, each of which fails when its condition is true. -/
theorem caseWhen_eq_firstFailure {α : Type} (branches : List (Truth × α)) :
    caseWhen branches =
      firstFailure (branches.map fun branch => (decide (branch.1 = some true), branch.2)) := by
  induction branches with
  | nil => rfl
  | cons branch rest ih =>
      obtain ⟨condition, value⟩ := branch
      by_cases holds : condition = some true
      · simp [caseWhen, firstFailure, holds]
      · simp [caseWhen, firstFailure, holds, ih]

/-! ## JSON columns -/

/-- `json -> key`: the value under the key, which may be a JSON null. -/
def arrow : Option Json → String → Option Json
  | some (.obj fields), key => Json.field? fields key
  | _, _ => none

/-- The text of a scalar; the queries read no text of an array or an object. -/
def scalarText : Json → Option String
  | .str text => some text
  | .int n => some (toString n)
  | .bool value => some (if value then "true" else "false")
  | .null | .arr _ | .obj _ => none

/-- `json ->> key`: the text under the key, NULL for a JSON null. -/
def arrowText (json : Option Json) (key : String) : Option String :=
  (arrow json key).bind scalarText

@[simp] theorem scalarText_str (text : String) : scalarText (.str text) = some text := rfl

@[simp] theorem scalarText_null : scalarText .null = none := rfl

@[simp] theorem arrow_none (key : String) : arrow none key = none := rfl

@[simp] theorem arrow_null (key : String) : arrow (some .null) key = none := rfl

@[simp] theorem arrow_obj (fields : List (String × Json)) (key : String) :
    arrow (some (.obj fields)) key = Json.field? fields key := rfl

/-- `text::timestamptz`. -/
def timestamptz (text : Option String) : Option DateTime := text.bind DateTime.fromIsoformat

/-- `text::numeric`. -/
def numeric (text : Option String) : Option ℚ := text.bind PyDecimal.read

theorem timestamptz_isoformat {t : DateTime} (inRange : t.InRange) :
    timestamptz (some t.isoformat) = some t := by
  rw [timestamptz, Option.bind_some, DateTime.fromIsoformat_isoformat inRange]

theorem numeric_text {number : ℚ} (decimal : PyDecimal.IsDecimal number) :
    numeric (some (PyDecimal.text number)) = some number := by
  rw [numeric, Option.bind_some, PyDecimal.read_text decimal]

/-! ## Rows of one owner -/

/-- Of the rows that every owner brings, a predicate on one owner's rows sees those
of that owner only. -/
theorem filter_flatMap_owned {α β κ : Type} (key : α → κ) (owner : β → κ) {owners : List α}
    {rows : α → List β} (owned : ∀ a ∈ owners, ∀ b ∈ rows a, owner b = key a)
    (distinct : (owners.map key).Nodup) {a : α} (member : a ∈ owners) {p : β → Bool}
    (own : ∀ b, p b = true → owner b = key a) :
    (owners.flatMap rows).filter p = (rows a).filter p := by
  induction owners with
  | nil => cases member
  | cons first rest ih =>
      rw [List.map_cons, List.nodup_cons] at distinct
      have later := ih fun b listed => owned b (List.mem_cons_of_mem first listed)
      rw [List.flatMap_cons, List.filter_append]
      rcases List.mem_cons.mp member with rfl | listed
      · have others : (rest.flatMap rows).filter p = [] := by
          rw [List.filter_eq_nil_iff]
          intro b brought holds
          obtain ⟨other, other_listed, bringing⟩ := List.mem_flatMap.mp brought
          refine distinct.1 (List.mem_map.mpr ⟨other, other_listed, ?_⟩)
          rw [← owned other (List.mem_cons_of_mem a other_listed) b bringing, own b holds]
        rw [others, List.append_nil]
      · have none_first : (rows first).filter p = [] := by
          rw [List.filter_eq_nil_iff]
          intro b bringing holds
          refine distinct.1 (List.mem_map.mpr ⟨a, listed, ?_⟩)
          rw [← owned first List.mem_cons_self b bringing, own b holds]
        rw [none_first, List.nil_append, later distinct.2 listed]

/-! ## Pages -/

/-- `LIMIT limit OFFSET offset`. -/
def page {α : Type} (rows : List α) (limit offset : Nat) : List α := (rows.drop offset).take limit

theorem mem_of_mem_page {α : Type} {rows : List α} {limit offset : Nat} {a : α}
    (listed : a ∈ page rows limit offset) : a ∈ rows :=
  List.mem_of_mem_drop (List.mem_of_mem_take listed)

theorem page_map {α β : Type} (f : α → β) (rows : List α) (limit offset : Nat) :
    page (rows.map f) limit offset = (page rows limit offset).map f := by
  rw [page, page, List.map_take, List.map_drop]

/-- The first pages of one size are the rows they cover, in order. -/
theorem pages_join {α : Type} (rows : List α) (limit count : Nat) :
    (List.range count).flatMap (fun k => page rows limit (k * limit)) =
      rows.take (count * limit) := by
  induction count with
  | zero => simp
  | succ count ih =>
      rw [List.range_succ, List.flatMap_append, ih, List.flatMap_singleton, page,
        Nat.succ_mul, List.take_add]

end Sql
