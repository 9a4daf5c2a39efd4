import Mathlib.Data.List.Sort
import Mathlib.Data.String.Basic
import Mathlib.Tactic.IntervalCases

/-!
# Canonical JSON text

`json.dumps(value, sort_keys=True, separators=(",", ":"))` with its default
ASCII escaping.  Quoted strings form a prefix code, so a text made of fixed
parts and quoted strings determines the strings.
-/

set_option autoImplicit false

inductive Json where
  | null
  | bool (value : Bool)
  | int (value : Int)
  | str (value : String)
  | arr (items : List Json)
  | obj (fields : List (String × Json))

namespace Json

/-! ## Quoted strings -/

def hexDigit (n : Nat) : Char := if n < 10 then Char.ofNat (48 + n) else Char.ofNat (87 + n)

def hexValue (c : Char) : Nat := if c.toNat < 58 then c.toNat - 48 else c.toNat - 87

/-- `\uXXXX` for one UTF-16 code unit. -/
def unitEscape (u : Nat) : List Char :=
  ['\\', 'u', hexDigit (u / 4096), hexDigit (u / 256 % 16), hexDigit (u / 16 % 16),
    hexDigit (u % 16)]

/-- The characters with a two-character escape, by code point. -/
def shortEscapes : List (Nat × Char) :=
  [(34, '"'), (92, '\\'), (10, 'n'), (13, 'r'), (9, 't'), (12, 'f'), (8, 'b')]

def shortEscape (c : Char) : Option Char :=
  (shortEscapes.find? fun entry => entry.1 = c.toNat).map Prod.snd

def escapeChar (c : Char) : List Char :=
  match shortEscape c with
  | some e => ['\\', e]
  | none =>
      if 32 ≤ c.toNat ∧ c.toNat ≤ 126 then [c]
      else if c.toNat < 65536 then unitEscape c.toNat
      else
        -- a surrogate pair
        unitEscape (55296 + (c.toNat - 65536) / 1024) ++
          unitEscape (56320 + (c.toNat - 65536) % 1024)

def quote (s : String) : List Char := '"' :: s.toList.flatMap escapeChar ++ ['"']

/-! ## The whole text -/

/-- Fields in the order of their keys. -/
def sortFields (fields : List (String × List Char)) : List (String × List Char) :=
  fields.insertionSort fun a b => a.1 ≤ b.1

def joined (parts : List (List Char)) : List Char := (parts.intersperse [',']).flatten

mutual

def dump : Json → List Char
  | .null => "null".toList
  | .bool true => "true".toList
  | .bool false => "false".toList
  | .int n => (toString n).toList
  | .str s => quote s
  | .arr items => '[' :: joined (dumpItems items) ++ [']']
  | .obj fields =>
      '{' :: joined ((sortFields (dumpFields fields)).map fun field =>
        quote field.1 ++ ':' :: field.2) ++ ['}']

def dumpItems : List Json → List (List Char)
  | [] => []
  | item :: rest => dump item :: dumpItems rest

def dumpFields : List (String × Json) → List (String × List Char)
  | [] => []
  | (key, value) :: rest => (key, dump value) :: dumpFields rest

end

def dumps (value : Json) : String := String.ofList (dump value)

/-! ## Quoted strings determine their text -/

theorem hexValue_hexDigit {n : Nat} (small : n < 16) : hexValue (hexDigit n) = n := by
  interval_cases n <;> rfl

def readUnit : List Char → Option (Nat × List Char)
  | '\\' :: 'u' :: a :: b :: c :: d :: rest =>
      some (hexValue a * 4096 + hexValue b * 256 + hexValue c * 16 + hexValue d, rest)
  | _ => none

def shortValue (e : Char) : Option Nat :=
  (shortEscapes.find? fun entry => entry.2 = e).map Prod.fst

/-- The code point that an escaped text starts with. -/
def readChar : List Char → Option (Nat × List Char)
  | '\\' :: 'u' :: rest =>
      match readUnit ('\\' :: 'u' :: rest) with
      | none => none
      | some (u, rest) =>
          if 55296 ≤ u ∧ u < 56320 then
            (readUnit rest).map fun (v, rest) => (65536 + (u - 55296) * 1024 + (v - 56320), rest)
          else some (u, rest)
  | '\\' :: e :: rest => (shortValue e).map fun n => (n, rest)
  | c :: rest => some (c.toNat, rest)
  | [] => none

theorem readUnit_unitEscape {u : Nat} (small : u < 65536) (rest : List Char) :
    readUnit (unitEscape u ++ rest) = some (u, rest) := by
  have a := hexValue_hexDigit (show u / 4096 < 16 by omega)
  have b := hexValue_hexDigit (show u / 256 % 16 < 16 by omega)
  have c := hexValue_hexDigit (show u / 16 % 16 < 16 by omega)
  have d := hexValue_hexDigit (show u % 16 < 16 by omega)
  simp only [unitEscape, List.cons_append, List.nil_append, readUnit, a, b, c, d]
  congr 2
  omega

theorem readChar_unitEscape {u : Nat} (small : u < 65536) (rest : List Char) :
    readChar (unitEscape u ++ rest) =
      if 55296 ≤ u ∧ u < 56320 then
        (readUnit rest).map fun (v, rest) => (65536 + (u - 55296) * 1024 + (v - 56320), rest)
      else some (u, rest) := by
  have unit := readUnit_unitEscape small rest
  simp only [unitEscape, List.cons_append, List.nil_append] at unit ⊢
  simp only [readChar, unit]

/-- A character is no surrogate. -/
theorem char_scalar (c : Char) : c.toNat < 55296 ∨ (57343 < c.toNat ∧ c.toNat < 1114112) :=
  c.valid

theorem shortEscapes_read :
    ∀ entry ∈ shortEscapes, shortValue entry.2 = some entry.1 ∧ entry.2 ≠ 'u' := by
  decide

theorem shortEscape_value {c e : Char} (escaped : shortEscape c = some e) :
    shortValue e = some c.toNat ∧ e ≠ 'u' := by
  obtain ⟨entry, found, same⟩ := Option.map_eq_some_iff.mp escaped
  have member := List.mem_of_find?_eq_some found
  have code : entry.1 = c.toNat := by simpa using List.find?_some found
  rw [← same, ← code]
  exact shortEscapes_read entry member

theorem readChar_escapeChar (c : Char) (rest : List Char) :
    readChar (escapeChar c ++ rest) = some (c.toNat, rest) := by
  unfold escapeChar
  split
  · rename_i e escaped
    obtain ⟨value, notUnit⟩ := shortEscape_value escaped
    simp only [List.cons_append, List.nil_append]
    unfold readChar
    split
    · rename_i same
      cases same
      exact absurd rfl notUnit
    · rename_i same
      cases same
      simp [value]
    · rename_i same
      cases same
      simp_all
    · rename_i same
      cases same
  · rename_i plain
    have notSlash : c ≠ '\\' := by
      rintro rfl
      exact absurd plain (by decide)
    split
    · simp only [List.cons_append, List.nil_append]
      unfold readChar
      split
      · rename_i same
        cases same
        exact absurd rfl notSlash
      · rename_i same
        cases same
        exact absurd rfl notSlash
      · rename_i same
        cases same
        rfl
      · rename_i same
        cases same
    · have scalar := char_scalar c
      split
      · rename_i small
        have notSurrogate : ¬ (55296 ≤ c.toNat ∧ c.toNat < 56320) := by omega
        rw [readChar_unitEscape small, if_neg notSurrogate]
      · rename_i large
        have high : 55296 + (c.toNat - 65536) / 1024 < 65536 := by omega
        have inRange : 55296 ≤ 55296 + (c.toNat - 65536) / 1024 ∧
            55296 + (c.toNat - 65536) / 1024 < 56320 := by omega
        have low : 56320 + (c.toNat - 65536) % 1024 < 65536 := by omega
        rw [List.append_assoc, readChar_unitEscape high, if_pos inRange, readUnit_unitEscape low]
        simp only [Option.map_some, Option.some.injEq, Prod.mk.injEq, and_true]
        omega

theorem escapeChar_head (c : Char) : ∃ head rest, escapeChar c = head :: rest ∧ head ≠ '"' := by
  unfold escapeChar
  split
  · exact ⟨_, _, rfl, by decide⟩
  · rename_i plain
    have notQuote : c ≠ '"' := by
      rintro rfl
      exact absurd plain (by decide)
    split
    · exact ⟨c, [], rfl, notQuote⟩
    · split
      · exact ⟨_, _, rfl, by decide⟩
      · exact ⟨_, _, rfl, by decide⟩

theorem escaped_append_injective {s t rest rest' : List Char}
    (same : s.flatMap escapeChar ++ '"' :: rest = t.flatMap escapeChar ++ '"' :: rest') :
    s = t ∧ rest = rest' := by
  induction s generalizing t with
  | nil =>
      cases t with
      | nil => exact ⟨rfl, (List.cons.inj same).2⟩
      | cons c t =>
          obtain ⟨head, more, starts, notQuote⟩ := escapeChar_head c
          simp only [List.flatMap_nil, List.nil_append, List.flatMap_cons, starts,
            List.cons_append, List.cons.injEq] at same
          exact absurd same.1.symm notQuote
  | cons b s ih =>
      cases t with
      | nil =>
          obtain ⟨head, more, starts, notQuote⟩ := escapeChar_head b
          simp only [List.flatMap_nil, List.nil_append, List.flatMap_cons, starts,
            List.cons_append, List.cons.injEq] at same
          exact absurd same.1 notQuote
      | cons c t =>
          simp only [List.flatMap_cons, List.append_assoc] at same
          have read := congrArg readChar same
          rw [readChar_escapeChar, readChar_escapeChar] at read
          simp only [Option.some.injEq, Prod.mk.injEq] at read
          have sameChar : b = c := Char.toNat_inj.mp read.1
          obtain ⟨sameText, sameRest⟩ := ih read.2
          exact ⟨by rw [sameChar, sameText], sameRest⟩

/-- Two texts that start with quoted strings start with the same string. -/
theorem quote_append_injective {s t : String} {rest rest' : List Char}
    (same : quote s ++ rest = quote t ++ rest') : s = t ∧ rest = rest' := by
  simp only [quote, List.cons_append, List.append_assoc, List.nil_append, List.cons.injEq,
    true_and] at same
  obtain ⟨sameText, sameRest⟩ := escaped_append_injective same
  exact ⟨String.toList_inj.mp sameText, sameRest⟩

end Json
