import LotusIdea.Foundation.JsonPayload

/-!
# Rows of a table

A row is its columns with their values.  A statement names columns, holds
placeholders and is run with values; it writes a row only when the three agree.
-/

set_option autoImplicit false

namespace Sql

inductive ColumnValue where
  | null
  | text (value : String)
  | int (value : Int)
  | time (value : DateTime)
  | json (value : Json)

def ColumnValue.optional {α : Type} (write : α → ColumnValue) (value : Option α) : ColumnValue :=
  value.elim .null write

abbrev Row := List (String × ColumnValue)

/-! ## Reading columns -/

section
variable {ε α : Type}

/-- `row[column]`. -/
def column : Row → String → Except (DecodeError ε) ColumnValue
  | [], wanted => .error (.keyError wanted)
  | (name, value) :: rest, wanted => if name = wanted then .ok value else column rest wanted

@[simp] theorem column_cons (name wanted : String) (value : ColumnValue) (rest : Row) :
    (column ((name, value) :: rest) wanted : Except (DecodeError ε) ColumnValue) =
      if name = wanted then .ok value else column rest wanted := by
  rw [column]

def readTextValue : ColumnValue → Except (DecodeError ε) String
  | .text value => .ok value
  | _ => .error (.typeError "a text column is expected")

def readIntValue : ColumnValue → Except (DecodeError ε) Int
  | .int value => .ok value
  | _ => .error (.typeError "an integer column is expected")

def readTimeValue : ColumnValue → Except (DecodeError ε) DateTime
  | .time value => .ok value
  | _ => .error (.typeError "a timestamp column is expected")

def readJsonValue : ColumnValue → Except (DecodeError ε) Json
  | .json value => .ok value
  | _ => .error (.typeError "a JSON column is expected")

/-- A column that may be NULL. -/
def readNullable (read : ColumnValue → Except (DecodeError ε) α) :
    ColumnValue → Except (DecodeError ε) (Option α)
  | .null => .ok none
  | value => (read value).map some

/-- `read(row[column])`. -/
def readColumn (read : ColumnValue → Except (DecodeError ε) α) (row : Row) (name : String) :
    Except (DecodeError ε) α := do
  read (← column row name)

@[simp] theorem readTextValue_text (value : String) :
    readTextValue (.text value) = (.ok value : Except (DecodeError ε) String) := rfl

@[simp] theorem readIntValue_int (value : Int) :
    readIntValue (.int value) = (.ok value : Except (DecodeError ε) Int) := rfl

@[simp] theorem readTimeValue_time (value : DateTime) :
    readTimeValue (.time value) = (.ok value : Except (DecodeError ε) DateTime) := rfl

@[simp] theorem readJsonValue_json (value : Json) :
    readJsonValue (.json value) = (.ok value : Except (DecodeError ε) Json) := rfl

@[simp] theorem readNullable_text (value : Option String) :
    readNullable readTextValue (.optional .text value) =
      (.ok value : Except (DecodeError ε) (Option String)) := by
  cases value <;> rfl

@[simp] theorem readNullable_time (value : Option DateTime) :
    readNullable readTimeValue (.optional .time value) =
      (.ok value : Except (DecodeError ε) (Option DateTime)) := by
  cases value <;> rfl

@[simp] theorem readNullable_json {β : Type} (write : β → Json) (value : Option β) :
    readNullable readJsonValue (.optional (fun b => .json (write b)) value) =
      (.ok (value.map write) : Except (DecodeError ε) (Option Json)) := by
  cases value <;> rfl

end

/-! ## Insertions -/

/-- An `INSERT` with its columns and the number of its placeholders. -/
structure Insertion where
  columns : List String
  placeholders : Nat

inductive StatementError where
  /-- The driver counts placeholders and parameters. -/
  | parameterCount (placeholders parameters : Nat)
  /-- The server counts columns and expressions. -/
  | expressionCount (columns expressions : Nat)
  deriving DecidableEq, Repr

def Insertion.execute (statement : Insertion) (values : List ColumnValue) :
    Except StatementError Row :=
  if statement.placeholders ≠ values.length then
    .error (.parameterCount statement.placeholders values.length)
  else if statement.columns.length ≠ statement.placeholders then
    .error (.expressionCount statement.columns.length statement.placeholders)
  else .ok (statement.columns.zip values)

end Sql
