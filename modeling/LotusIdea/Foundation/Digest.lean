import Mathlib.Data.List.Nodup
import Mathlib.Logic.Function.Basic

/-!
# Hexadecimal digests

SHA-256 is a parameter: programs read `sha256(text).hexdigest()` cut to some
number of digits, and nothing here looks inside the function.  What a proof
relies on is one of the named properties below.  Collision freedom is stated
for each width on its own, so it is never combined with the size of the text at
that width.
-/

set_option autoImplicit false

class Sha256 where
  /-- `sha256(text.encode("utf-8")).hexdigest()[:digits]`. -/
  hexdigest (digits : Nat) (text : String) : String

namespace Sha256
variable [Sha256]

/-- Distinct texts have distinct digests of the given width. -/
def CollisionFree (digits : Nat) : Prop := Function.Injective (hexdigest digits)

def isHexDigit (c : Char) : Bool := ('0' ≤ c && c ≤ '9') || ('a' ≤ c && c ≤ 'f')

/-- Every digest is written in lower-case hexadecimal digits. -/
def HexText : Prop := ∀ digits text, (hexdigest digits text).toList.all isHexDigit = true

/-- A digest has as many characters as were asked for. -/
def Sized : Prop := ∀ digits text, digits ≤ 64 → (hexdigest digits text).toList.length = digits

/-- A digest given by a table of full digests, and by `other` elsewhere. -/
@[reducible] def tabled (table : List (String × String)) (other : Nat → String → String) : Sha256 where
  hexdigest digits text :=
    match table.lookup text with
    | some full => String.ofList (full.toList.take digits)
    | none => other digits text

omit [Sha256]

/-- The digest that tells no texts apart, for runs that compare none. -/
@[reducible] def zeros : Sha256 := ⟨fun digits _ => String.ofList (List.replicate digits '0')⟩

theorem zeros_hexText : @HexText zeros := by
  intro digits text
  simp only [hexdigest, String.toList_ofList, List.all_eq_true, List.mem_replicate]
  rintro c ⟨-, rfl⟩
  rfl

theorem zeros_sized : @Sized zeros := by
  intro digits text _
  simp only [hexdigest, String.toList_ofList, List.length_replicate]

/-! ## A collision-free digest that agrees with a table -/

/-- Every character in unary, closed by a zero. -/
def unary (text : List Char) : List Char :=
  text.flatMap fun c => List.replicate c.toNat 'a' ++ ['0']

theorem replicate_append_injective {m n : Nat} {rest rest' : List Char}
    (same : List.replicate m 'a' ++ '0' :: rest = List.replicate n 'a' ++ '0' :: rest') :
    m = n ∧ rest = rest' := by
  induction m generalizing n with
  | zero =>
      cases n with
      | zero => simpa using same
      | succ n => simp [List.replicate_succ] at same
  | succ m ih =>
      cases n with
      | zero => simp [List.replicate_succ] at same
      | succ n =>
          simp only [List.replicate_succ, List.cons_append, List.cons.injEq, true_and] at same
          obtain ⟨number, further⟩ := ih same
          exact ⟨by omega, further⟩

theorem unary_injective : Function.Injective unary := by
  intro s t same
  induction s generalizing t with
  | nil =>
      cases t with
      | nil => rfl
      | cons c t =>
          have length := congrArg List.length same
          simp [unary] at length
  | cons b s ih =>
      cases t with
      | nil =>
          have length := congrArg List.length same
          simp [unary] at length
      | cons c t =>
          simp only [unary, List.flatMap_cons, List.append_assoc, List.cons_append,
            List.nil_append] at same
          obtain ⟨number, further⟩ := replicate_append_injective same
          rw [Char.toNat_inj.mp number, ih further]

/-- The table's digests, and longer texts than any digest elsewhere. -/
@[reducible] def extended (table : List (String × String)) : Sha256 :=
  tabled table fun _ text => String.ofList (List.replicate 65 '0' ++ unary text.toList)

theorem mem_of_lookup {table : List (String × String)} {text full : String}
    (found : table.lookup text = some full) : (text, full) ∈ table := by
  obtain ⟨before, after, whole, _⟩ := List.lookup_eq_some_iff.mp found
  rw [whole]
  exact List.mem_append_right _ List.mem_cons_self

theorem extended_hexText {table : List (String × String)}
    (hex : ∀ entry ∈ table, entry.2.toList.all isHexDigit = true) :
    @HexText (extended table) := by
  intro digits text
  simp only [hexdigest]
  split
  · rename_i full found
    have whole := hex _ (mem_of_lookup found)
    simp only [List.all_eq_true, String.toList_ofList] at whole ⊢
    exact fun c member => whole c (List.mem_of_mem_take member)
  · simp only [List.all_eq_true, String.toList_ofList, List.mem_append, List.mem_replicate, unary,
      List.mem_flatMap, List.mem_singleton]
    rintro c (⟨-, rfl⟩ | ⟨_, -, ⟨-, rfl⟩ | rfl⟩) <;> rfl

theorem extended_collisionFree {table : List (String × String)} {digits : Nat}
    (short : digits ≤ 64)
    (distinct : (table.map fun entry => entry.2.toList.take digits).Nodup) :
    @CollisionFree (extended table) digits := by
  intro s t same
  have long : ∀ full text : String,
      full.toList.take digits ≠ List.replicate 65 '0' ++ unary text.toList := by
    intro full text equal
    have length := congrArg List.length equal
    simp only [List.length_take, List.length_append, List.length_replicate] at length
    omega
  simp only [hexdigest] at same
  have lists := congrArg String.toList same
  split at lists <;> split at lists <;> simp only [String.toList_ofList] at lists
  · rename_i full found _ other foundOther
    have entries := List.inj_on_of_nodup_map distinct (mem_of_lookup found)
      (mem_of_lookup foundOther) lists
    exact congrArg Prod.fst entries
  · exact absurd lists (long _ _)
  · exact absurd lists.symm (long _ _)
  · exact String.toList_inj.mp (unary_injective (List.append_cancel_left lists))

end Sha256
