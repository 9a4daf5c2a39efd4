import LotusIdea.Foundation.CanonicalJson
import LotusIdea.Foundation.Checked
import LotusIdea.Foundation.DecimalText
import LotusIdea.Foundation.Raising

/-!
# Reading JSON payloads

What a decoder does with a payload: it looks fields up, reads texts, numbers,
times, enumeration members and arrays, and passes what it read to a constructor.
Each reader returns what the matching writer wrote.
-/

set_option autoImplicit false

/-- An enumeration whose members are told apart by their texts. -/
class PyEnum (α : Type) where
  value : α → String
  members : List α
  complete : ∀ a, a ∈ members
  distinct : (members.map value).Nodup

/-- `Enum(text)`: the member with this text. -/
def PyEnum.ofValue? {α : Type} [PyEnum α] (text : String) : Option α :=
  (members (α := α)).find? fun member => value member = text

theorem PyEnum.value_injective {α : Type} [PyEnum α] {a b : α} (same : value a = value b) :
    a = b :=
  List.inj_on_of_nodup_map distinct (complete a) (complete b) same

@[simp] theorem PyEnum.ofValue?_value {α : Type} [PyEnum α] (a : α) :
    ofValue? (value a) = some a := by
  have found : ((members (α := α)).find? fun member => value member = value a).isSome = true := by
    rw [List.find?_isSome]
    exact ⟨a, complete a, by simp⟩
  obtain ⟨member, found⟩ := Option.isSome_iff_exists.mp found
  have same := List.find?_some found
  rw [ofValue?, found, value_injective (of_decide_eq_true same)]

/-- The exceptions of a decoder: its own, and those of the constructor it calls. -/
inductive DecodeError (ε : Type) where
  | keyError (key : String)
  | typeError (message : String)
  | valueError (message : String)
  | raised (error : ε)
  deriving DecidableEq

namespace Json

variable {ε α β : Type}

/-! ## Looking fields up -/

/-- The value of the first field with this key. -/
def field? : List (String × Json) → String → Option Json
  | [], _ => none
  | (key, value) :: rest, wanted => if key = wanted then some value else field? rest wanted

@[simp] theorem field?_nil (wanted : String) : field? [] wanted = none := rfl

@[simp] theorem field?_cons (key wanted : String) (value : Json) (rest : List (String × Json)) :
    field? ((key, value) :: rest) wanted =
      if key = wanted then some value else field? rest wanted := by
  rw [field?]

/-- `payload[key]`. -/
def getItem : Json → String → Except (DecodeError ε) Json
  | .obj fields, key =>
      match field? fields key with
      | some value => .ok value
      | none => .error (.keyError key)
  | _, _ => .error (.typeError "the payload is no mapping")

/-- `payload.get(key, default)`. -/
def getOr : Json → String → Json → Except (DecodeError ε) Json
  | .obj fields, key, default => .ok ((field? fields key).getD default)
  | _, _, _ => .error (.typeError "the payload is no mapping")

@[simp] theorem getItem_obj (fields : List (String × Json)) (key : String) :
    getItem (.obj fields) key =
      match field? fields key with
      | some value => .ok value
      | none => (.error (.keyError key) : Except (DecodeError ε) Json) := rfl

@[simp] theorem getOr_obj (fields : List (String × Json)) (key : String) (default : Json) :
    getOr (.obj fields) key default =
      (.ok ((field? fields key).getD default) : Except (DecodeError ε) Json) := rfl

/-! ## Reading values -/

/-- `str(value)` of a scalar. -/
def readText : Json → Except (DecodeError ε) String
  | .str text => .ok text
  | .null => .ok "None"
  | .bool true => .ok "True"
  | .bool false => .ok "False"
  | .int n => .ok (toString n)
  | _ => .error (.typeError "a text is expected")

/-- `int(value)` of a number. -/
def readInt : Json → Except (DecodeError ε) Int
  | .int n => .ok n
  | .bool b => .ok (if b then 1 else 0)
  | .str _ => .error (.valueError "invalid literal for int()")
  | _ => .error (.typeError "a number is expected")

/-- `bool(value)`. -/
def readBool : Json → Except (DecodeError ε) Bool
  | .null => .ok false
  | .bool b => .ok b
  | .int n => .ok (n != 0)
  | .str text => .ok (text != "")
  | .arr items => .ok !items.isEmpty
  | .obj fields => .ok !fields.isEmpty

def readMember [PyEnum α] : Json → Except (DecodeError ε) α
  | .str text =>
      match PyEnum.ofValue? text with
      | some member => .ok member
      | none => .error (.valueError (text ++ " is not a valid member"))
  | _ => .error (.valueError "the value is not a valid member")

/-- `datetime.fromisoformat(str(value))`. -/
def readTime (value : Json) : Except (DecodeError ε) DateTime := do
  let text ← readText value
  match DateTime.fromIsoformat text with
  | some time => .ok time
  | none => .error (.valueError ("Invalid isoformat string: " ++ text))

/-- `date.fromisoformat(str(value))`. -/
def readDay (value : Json) : Except (DecodeError ε) Date := do
  let text ← readText value
  match Date.fromIsoformat text with
  | some day => .ok day
  | none => .error (.valueError ("Invalid isoformat string: " ++ text))

/-- `Decimal(str(value))`. -/
def readDecimal (value : Json) : Except (DecodeError ε) ℚ := do
  let text ← readText value
  match PyDecimal.read text with
  | some number => .ok number
  | none => .error (.valueError ("not a decimal: " ++ text))

/-- `tuple(read(item) for item in value)` of an array. -/
def readArray (read : Json → Except (DecodeError ε) α) :
    Json → Except (DecodeError ε) (List α)
  | .arr items => items.mapM read
  | _ => .error (.typeError "an array is expected")

/-- `read(value) if value is not None else None`. -/
def readOptional (read : Json → Except (DecodeError ε) α) : Json → Except (DecodeError ε) (Option α)
  | .null => .ok none
  | value => (read value).map some

/-- Call a constructor on what was read. -/
def construct {α : Type} {checks : α → List (Bool × ε)} (fields : α) :
    Except (DecodeError ε) (Checked checks) :=
  (Checked.make checks fields).mapError .raised

/-! ## Reading fields -/

/-- `read(payload[key])`. -/
def item (read : Json → Except (DecodeError ε) α) (payload : Json) (key : String) :
    Except (DecodeError ε) α := do
  read (← getItem payload key)

/-- `read(payload[key]) if payload.get(key) is not None else None`. -/
def optionalItem (read : Json → Except (DecodeError ε) α) (payload : Json) (key : String) :
    Except (DecodeError ε) (Option α) := do
  readOptional read (← getOr payload key .null)

/-- `read(payload.get(key, default))`. -/
def itemOr (read : Json → Except (DecodeError ε) α) (payload : Json) (key : String)
    (default : Json) : Except (DecodeError ε) α := do
  read (← getOr payload key default)

theorem item_obj {read : Json → Except (DecodeError ε) α} {fields : List (String × Json)}
    {key : String} {value : Json} (found : field? fields key = some value) :
    item read (.obj fields) key = read value := by
  simp [item, found, bind, Except.bind]

theorem optionalItem_obj {read : Json → Except (DecodeError ε) α} {fields : List (String × Json)}
    {key : String} {value : Json} (found : field? fields key = some value) :
    optionalItem read (.obj fields) key = readOptional read value := by
  simp [optionalItem, found, bind, Except.bind]

theorem itemOr_obj {read : Json → Except (DecodeError ε) α} {fields : List (String × Json)}
    {key : String} {default value : Json} (found : field? fields key = some value) :
    itemOr read (.obj fields) key default = read value := by
  simp [itemOr, found, bind, Except.bind]

@[simp] theorem ok_bind {ε α β : Type} (a : α) (next : α → Except ε β) :
    ((.ok a : Except ε α) >>= next) = next a := rfl

@[simp] theorem error_bind {ε α β : Type} (error : ε) (next : α → Except ε β) :
    ((.error error : Except ε α) >>= next) = .error error := rfl

/-! ## Writing values -/

def ofOption (write : α → Json) (value : Option α) : Json := value.elim .null write

def ofMember [PyEnum α] (member : α) : Json := .str (PyEnum.value member)

def ofTime (time : DateTime) : Json := .str time.isoformat

def ofDay (day : Date) : Json := .str day.isoformat

def ofDecimal (number : ℚ) : Json := .str (PyDecimal.text number)

def ofTexts (texts : List String) : Json := .arr (texts.map .str)

/-! ## What was written is read -/

@[simp] theorem readText_str (text : String) :
    readText (.str text) = (.ok text : Except (DecodeError ε) String) := rfl

@[simp] theorem readInt_int (n : Int) :
    readInt (.int n) = (.ok n : Except (DecodeError ε) Int) := rfl

@[simp] theorem readBool_bool (b : Bool) :
    readBool (.bool b) = (.ok b : Except (DecodeError ε) Bool) := rfl

@[simp] theorem readMember_ofMember [PyEnum α] (member : α) :
    readMember (ofMember member) = (.ok member : Except (DecodeError ε) α) := by
  simp [readMember, ofMember]

theorem readTime_ofTime {time : DateTime} (inRange : time.InRange) :
    readTime (ofTime time) = (.ok time : Except (DecodeError ε) DateTime) := by
  simp [readTime, ofTime, DateTime.fromIsoformat_isoformat inRange, bind, Except.bind]

theorem readDay_ofDay {day : Date} (inRange : DateTime.DayInRange day.days) :
    readDay (ofDay day) = (.ok day : Except (DecodeError ε) Date) := by
  simp [readDay, ofDay, Date.fromIsoformat_isoformat inRange, bind, Except.bind]

theorem readDecimal_ofDecimal {number : ℚ} (decimal : PyDecimal.IsDecimal number) :
    readDecimal (ofDecimal number) = (.ok number : Except (DecodeError ε) ℚ) := by
  simp [readDecimal, ofDecimal, PyDecimal.read_text decimal, bind, Except.bind]

/-- Reading the items one by one. -/
theorem mapM_written {γ : Type} {write : α → γ} {read : γ → Except ε β} {after : α → β}
    (items : List α) (each : ∀ item ∈ items, read (write item) = .ok (after item)) :
    (items.map write).mapM read = .ok (items.map after) := by
  rw [List.mapM_map]
  exact Except.mapM_ok each

theorem readArray_written {write : α → Json} {read : Json → Except (DecodeError ε) β}
    {after : α → β} (items : List α) (each : ∀ item ∈ items, read (write item) = .ok (after item)) :
    readArray read (.arr (items.map write)) = .ok (items.map after) :=
  mapM_written items each

theorem readArray_back {write : α → Json} {read : Json → Except (DecodeError ε) α}
    (items : List α) (each : ∀ item ∈ items, read (write item) = .ok item) :
    readArray read (.arr (items.map write)) = .ok items := by
  have written := readArray_written items each
  rwa [List.map_id'] at written

@[simp] theorem readArray_ofTexts (texts : List String) :
    readArray readText (ofTexts texts) = (.ok texts : Except (DecodeError ε) (List String)) :=
  readArray_back texts fun text _ => readText_str text

@[simp] theorem readArray_members [PyEnum α] (items : List α) :
    readArray readMember (.arr (items.map ofMember)) =
      (.ok items : Except (DecodeError ε) (List α)) :=
  readArray_back items fun member _ => readMember_ofMember member

/-- An absent value is written as null, and a written value is never null. -/
theorem readOptional_written {write : α → Json} {read : Json → Except (DecodeError ε) β}
    {after : α → β} (value : Option α) (shown : ∀ a, write a ≠ .null)
    (each : ∀ a ∈ value, read (write a) = .ok (after a)) :
    readOptional read (ofOption write value) = .ok (value.map after) := by
  cases value with
  | none => rfl
  | some a =>
      have read := each a rfl
      have notNull := shown a
      cases written : write a <;> simp_all [readOptional, ofOption, Except.map]

theorem readOptional_back {write : α → Json} {read : Json → Except (DecodeError ε) α}
    (value : Option α) (shown : ∀ a, write a ≠ .null)
    (each : ∀ a ∈ value, read (write a) = .ok a) :
    readOptional read (ofOption write value) = .ok value := by
  have written := readOptional_written value shown each
  rwa [Option.map_id'] at written

@[simp] theorem readOptional_text (value : Option String) :
    readOptional readText (ofOption .str value) =
      (.ok value : Except (DecodeError ε) (Option String)) :=
  readOptional_back value (fun _ null => nomatch null) fun text _ => readText_str text

@[simp] theorem readOptional_int (value : Option Int) :
    readOptional readInt (ofOption .int value) =
      (.ok value : Except (DecodeError ε) (Option Int)) :=
  readOptional_back value (fun _ null => nomatch null) fun n _ => readInt_int n

@[simp] theorem readOptional_member [PyEnum α] (value : Option α) :
    readOptional readMember (ofOption ofMember value) =
      (.ok value : Except (DecodeError ε) (Option α)) :=
  readOptional_back value (fun _ null => nomatch null) fun member _ => readMember_ofMember member

theorem readOptional_time {value : Option DateTime} (inRange : ∀ time ∈ value, time.InRange) :
    readOptional readTime (ofOption ofTime value) =
      (.ok value : Except (DecodeError ε) (Option DateTime)) :=
  readOptional_back value (fun _ null => nomatch null) fun time member =>
    readTime_ofTime (inRange time member)

theorem readOptional_decimal {value : Option ℚ}
    (decimal : ∀ number ∈ value, PyDecimal.IsDecimal number) :
    readOptional readDecimal (ofOption ofDecimal value) =
      (.ok value : Except (DecodeError ε) (Option ℚ)) :=
  readOptional_back value (fun _ null => nomatch null) fun number member =>
    readDecimal_ofDecimal (decimal number member)

theorem construct_val {α : Type} {checks : α → List (Bool × ε)} (a : Checked checks) :
    construct a.val = (.ok a : Except (DecodeError ε) (Checked checks)) := by
  simp [construct, Except.mapError]

end Json
