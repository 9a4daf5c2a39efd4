import Mathlib.Data.Int.Order.Basic
import Mathlib.Data.List.DropRight
import Mathlib.Data.String.Basic

/-!
# Text and time values

Python strings are read as Lean strings (sequences of Unicode scalar values)
and `datetime` as an instant together with its UTC offset.  Only what program
text of this kind asks of them is here: blank tests, prefixes, offsets,
comparison of instants.
-/

set_option autoImplicit false

namespace PyText

/-- The code points `str.isspace` and `str.strip` treat as white space. -/
def isSpace (c : Char) : Bool :=
  let n := c.toNat
  (9 ≤ n && n ≤ 13) || (28 ≤ n && n ≤ 32) || n == 133 || n == 160 || n == 5760 ||
    (8192 ≤ n && n ≤ 8202) || n == 8232 || n == 8233 || n == 8239 || n == 8287 || n == 12288

/-- `not value.strip()`. -/
def isBlank (s : String) : Bool := s.toList.all isSpace

def startsWith (s start : String) : Bool := start.toList.isPrefixOf s.toList

def strip (s : String) : String :=
  String.ofList ((s.toList.dropWhile isSpace).reverse.dropWhile isSpace).reverse

@[simp] theorem isBlank_empty : isBlank "" = true := rfl

theorem isBlank_append (s t : String) : isBlank (s ++ t) = (isBlank s && isBlank t) := by
  simp [isBlank]

/-- Text in front of which a non-blank literal stands is never blank. -/
theorem isBlank_append_of_left {s : String} (t : String) (visible : isBlank s = false) :
    isBlank (s ++ t) = false := by
  simp [isBlank_append, visible]

theorem startsWith_append (start t : String) : startsWith (start ++ t) start = true := by
  simp [startsWith]

/-- `needle in text`. -/
def contains (text needle : List Char) : Bool := text.tails.any needle.isPrefixOf

/-- The part of `str.lower` that a search for ASCII text can see: upper-case
ASCII letters, and the two other code points whose lower case has an ASCII letter. -/
def lowerChar (c : Char) : List Char :=
  if 'A' ≤ c ∧ c ≤ 'Z' then [Char.ofNat (c.toNat + 32)]
  else if c.toNat = 304 then ['i', Char.ofNat 775]
  else if c.toNat = 8490 then ['k']
  else [c]

def lower (s : String) : List Char := s.toList.flatMap lowerChar

theorem strip_eq (s : String) :
    (strip s).toList = List.rdropWhile isSpace (s.toList.dropWhile isSpace) := by
  simp [strip, List.rdropWhile]

/-- Stripping twice is stripping once. -/
@[simp] theorem strip_strip (s : String) : strip (strip s) = strip s := by
  apply String.toList_inj.mp
  rw [strip_eq, strip_eq]
  generalize trimmed : s.toList.dropWhile isSpace = text
  have settled : text.dropWhile isSpace = text := by
    rw [← trimmed]
    exact List.dropWhile_idempotent _ _
  have kept : (text.rdropWhile isSpace).dropWhile isSpace = text.rdropWhile isSpace := by
    cases shape : text.rdropWhile isSpace with
    | nil => rfl
    | cons c rest =>
        obtain ⟨tail, whole⟩ := List.rdropWhile_prefix isSpace text
        rw [shape] at whole
        rw [← whole, List.cons_append] at settled
        rw [List.dropWhile_cons] at settled ⊢
        split
        · rename_i space
          rw [if_pos space] at settled
          have short := (List.dropWhile_suffix isSpace (l := rest ++ tail)).length_le
          rw [settled] at short
          simp at short
        · rfl
  rw [kept, List.rdropWhile_idempotent]

end PyText

/-- A `datetime`: microseconds from the epoch, and the UTC offset when the
value is aware.  A naive value keeps its wall clock in `instant`. -/
structure DateTime where
  instant : Int
  utcOffset : Option Int := none
  deriving DecidableEq, Repr

namespace DateTime

/-- `==` on datetimes: aware values are equal when they name one instant, and a
naive value never equals an aware one. -/
instance : BEq DateTime where
  beq a b := a.instant == b.instant && a.utcOffset.isSome == b.utcOffset.isSome

def isNaive (t : DateTime) : Bool := t.utcOffset.isNone

/-- `t.utcoffset() == UTC.utcoffset(t)`. -/
def isUtc (t : DateTime) : Bool := t.utcOffset == some 0

def utc (instant : Int) : DateTime := ⟨instant, some 0⟩

instance : LE DateTime := ⟨fun a b => a.instant ≤ b.instant⟩
instance : LT DateTime := ⟨fun a b => a.instant < b.instant⟩
instance (a b : DateTime) : Decidable (a ≤ b) := inferInstanceAs (Decidable (a.instant ≤ b.instant))
instance (a b : DateTime) : Decidable (a < b) := inferInstanceAs (Decidable (a.instant < b.instant))

/-- `max(a, b)`: the first of two equal values wins. -/
def later (a b : DateTime) : DateTime := if a < b then b else a

/-- `t + timedelta(microseconds = n)`. -/
def shift (t : DateTime) (n : Int) : DateTime := { t with instant := t.instant + n }

/-! ### `isoformat` -/

/-- `n` in at least `width` digits. -/
def padded (width n : Nat) : List Char :=
  let digits := Nat.toDigits 10 n
  List.replicate (width - digits.length) '0' ++ digits

/-- Year, month and day of a day count from 1970-01-01. -/
def civilFromDays (days : Int) : Nat × Nat × Nat :=
  let z := days + 719468
  let era := z.fdiv 146097
  let doe := (z - era * 146097).toNat
  let yoe := (doe - doe / 1460 + doe / 36524 - doe / 146096) / 365
  let doy := doe - (365 * yoe + yoe / 4 - yoe / 100)
  let mp := (5 * doy + 2) / 153
  let day := doy - (153 * mp + 2) / 5 + 1
  let month := if mp < 10 then mp + 3 else mp - 9
  let year := (yoe + era * 400).toNat + (if month ≤ 2 then 1 else 0)
  (year, month, day)

def clockText (micros : Nat) : List Char :=
  let seconds := micros / 1000000
  padded 2 (seconds / 3600) ++ ':' :: padded 2 (seconds / 60 % 60) ++ ':' ::
    padded 2 (seconds % 60) ++
    if micros % 1000000 = 0 then [] else '.' :: padded 6 (micros % 1000000)

def offsetText (offset : Int) : List Char :=
  let size := offset.natAbs
  (if offset < 0 then '-' else '+') :: padded 2 (size / 3600000000) ++ ':' ::
    padded 2 (size / 60000000 % 60) ++
    if size % 60000000 = 0 then []
    else ':' :: padded 2 (size / 1000000 % 60) ++
      if size % 1000000 = 0 then [] else '.' :: padded 6 (size % 1000000)

def isoformat (t : DateTime) : String :=
  let wall := t.instant + t.utcOffset.getD 0
  let (year, month, day) := civilFromDays (wall.fdiv 86400000000)
  String.ofList
    (padded 4 year ++ '-' :: padded 2 month ++ '-' :: padded 2 day ++ 'T' ::
      clockText (wall.fmod 86400000000).toNat ++ (t.utcOffset.elim [] offsetText))

example : isoformat (.utc 1767225600000001) = "2026-01-01T00:00:00.000001+00:00" := by decide

@[simp] theorem beq_self (t : DateTime) : (t == t) = true := by
  simp [BEq.beq]

/-- The same instant told in UTC; a naive value stays naive. -/
def inUtc (t : DateTime) : DateTime := { t with utcOffset := t.utcOffset.map fun _ => 0 }

@[simp] theorem instant_inUtc (t : DateTime) : t.inUtc.instant = t.instant := rfl

@[simp] theorem isNaive_inUtc (t : DateTime) : t.inUtc.isNaive = t.isNaive := by
  simp [inUtc, isNaive]

/-- `==` compares what the values read in UTC. -/
theorem beq_iff_inUtc {a b : DateTime} : (a == b) = true ↔ a.inUtc = b.inUtc := by
  obtain ⟨ai, ao⟩ := a
  obtain ⟨bi, bo⟩ := b
  cases ao <;> cases bo <;> simp [BEq.beq, inUtc]

theorem le_def {a b : DateTime} : a ≤ b ↔ a.instant ≤ b.instant := Iff.rfl

theorem lt_def {a b : DateTime} : a < b ↔ a.instant < b.instant := Iff.rfl

theorem isUtc_iff {t : DateTime} : t.isUtc = true ↔ t.utcOffset = some 0 := by
  simp [isUtc]

theorem isNaive_of_isUtc {t : DateTime} (utc : t.isUtc = true) : t.isNaive = false := by
  simp [isNaive, isUtc_iff.mp utc]

@[simp] theorem isUtc_shift (t : DateTime) (n : Int) : (t.shift n).isUtc = t.isUtc := rfl

@[simp] theorem isNaive_shift (t : DateTime) (n : Int) : (t.shift n).isNaive = t.isNaive := rfl

/-- On values in UTC `==` is equality. -/
theorem eq_of_beq_of_isUtc {a b : DateTime} (aUtc : a.isUtc = true) (bUtc : b.isUtc = true)
    (same : (a == b) = true) : a = b := by
  obtain ⟨ai, ao⟩ := a
  obtain ⟨bi, bo⟩ := b
  rw [isUtc_iff] at aUtc bUtc
  simp only at aUtc bUtc
  subst aUtc bUtc
  have : ai = bi := by simpa [BEq.beq] using same
  rw [this]

end DateTime

/-- A `date`, by its distance in days from 1970-01-01. -/
structure Date where
  days : Int
  deriving DecidableEq, Repr

def Date.isoformat (d : Date) : String :=
  let (year, month, day) := DateTime.civilFromDays d.days
  String.ofList
    (DateTime.padded 4 year ++ '-' :: DateTime.padded 2 month ++ '-' :: DateTime.padded 2 day)
