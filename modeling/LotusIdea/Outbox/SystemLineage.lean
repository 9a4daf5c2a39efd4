import LotusIdea.Outbox.Events
import Mathlib.Data.List.Infix

/-!
# System lineage

The lineage that an event gets when its request brings none is made of a fixed
start and hexadecimal digits.  It always is a product-safe diagnostic
identifier, so building it never raises.
-/

set_option autoImplicit false

namespace LotusIdea

/-! ## Searching a text with a hexadecimal end -/

theorem contains_iff {text needle : List Char} :
    PyText.contains text needle = true ↔ needle <:+: text := by
  simp only [PyText.contains, List.any_eq_true, List.mem_tails, List.isPrefixOf_iff_prefix,
    List.infix_iff_prefix_suffix]
  constructor
  · rintro ⟨rest, suffix, isPrefix⟩
    exact ⟨rest, isPrefix, suffix⟩
  · rintro ⟨rest, isPrefix, suffix⟩
    exact ⟨rest, suffix, isPrefix⟩

/-- A word that ends in a character foreign to `tail` lies before `tail`. -/
theorem infix_before {word start tail : List Char} {last : Char} (foreign : last ∉ tail)
    (found : word ++ [last] <:+: start ++ tail) : word ++ [last] <:+: start := by
  obtain ⟨before, after, whole⟩ := found
  rcases List.append_eq_append_iff.mp whole with ⟨gap, startIs, _⟩ | ⟨rest, wordEnds, tailIs⟩
  · exact ⟨before, gap, startIs.symm⟩
  · cases rest with
    | nil =>
        rw [List.append_nil] at wordEnds
        exact ⟨before, [], by rw [List.append_nil, wordEnds]⟩
    | cons c rest =>
        -- the word would end inside the tail
        have ends := congrArg List.getLast? wordEnds
        rw [← List.append_assoc, List.getLast?_concat,
          List.getLast?_append_of_ne_nil _ (List.cons_ne_nil c rest)] at ends
        have member := List.mem_of_getLast? ends.symm
        rw [tailIs] at foreign
        exact absurd (List.mem_append_left _ member) foreign

/-- The part of a fragment up to its last character that is no hexadecimal digit. -/
def fixedPart (fragment : List Char) : List Char := fragment.rdropWhile Sha256.isHexDigit

/-- A fragment that reaches past hexadecimal digits has its fixed part before them. -/
theorem fixedPart_before {fragment start digits : List Char}
    (hex : digits.all Sha256.isHexDigit = true) (visible : fixedPart fragment ≠ [])
    (found : fragment <:+: start ++ digits) : fixedPart fragment <:+: start := by
  have foreign := List.rdropWhile_last_not Sha256.isHexDigit fragment visible
  have whole := List.dropLast_append_getLast visible
  have inside : fixedPart fragment <:+: start ++ digits :=
    (List.rdropWhile_prefix Sha256.isHexDigit fragment).isInfix.trans found
  rw [← whole] at inside ⊢
  refine infix_before ?_ inside
  intro member
  exact foreign (List.all_eq_true.mp hex _ member)

/-! ## Plain text -/

/-- Lower-case letters, digits and dashes. -/
def isPlain (c : Char) : Bool :=
  ('a' ≤ c && c ≤ 'z') || ('0' ≤ c && c ≤ '9') || c = '-'

theorem plain_of_hexDigit {c : Char} (hex : Sha256.isHexDigit c = true) : isPlain c = true := by
  simp only [Sha256.isHexDigit, Bool.or_eq_true, Bool.and_eq_true, decide_eq_true_eq,
    isPlain] at hex ⊢
  rcases hex with ⟨low, high⟩ | ⟨low, high⟩
  · exact Or.inl (Or.inr ⟨low, high⟩)
  · exact Or.inl (Or.inl ⟨low, le_trans high (by decide)⟩)

/-- A plain character by its code point. -/
theorem plain_toNat {c : Char} (plain : isPlain c = true) :
    (97 ≤ c.toNat ∧ c.toNat ≤ 122) ∨ (48 ≤ c.toNat ∧ c.toNat ≤ 57) ∨ c.toNat = 45 := by
  simp only [isPlain, Bool.or_eq_true, Bool.and_eq_true, decide_eq_true_eq] at plain
  rcases plain with (⟨low, high⟩ | ⟨low, high⟩) | rfl
  · exact Or.inl ⟨low, high⟩
  · exact Or.inr (Or.inl ⟨low, high⟩)
  · exact Or.inr (Or.inr rfl)

theorem plain_not_space {c : Char} (plain : isPlain c = true) : PyText.isSpace c = false := by
  have code := plain_toNat plain
  simp only [PyText.isSpace, Bool.or_eq_false_iff, Bool.and_eq_false_iff, decide_eq_false_iff_not,
    beq_eq_false_iff_ne]
  omega

theorem plain_lower {c : Char} (plain : isPlain c = true) : PyText.lowerChar c = [c] := by
  have code := plain_toNat plain
  have notUpper : ¬ ('A' ≤ c ∧ c ≤ 'Z') := by
    rintro ⟨low, high⟩
    have from_ : 65 ≤ c.toNat := low
    have to_ : c.toNat ≤ 90 := high
    omega
  rw [PyText.lowerChar, if_neg notUpper, if_neg (by omega), if_neg (by omega)]

theorem plain_not_underscore {c : Char} (plain : isPlain c = true) : c ≠ '_' := by
  rintro rfl
  cases plain

theorem strip_of_plain {text : String} (plain : text.toList.all isPlain = true) :
    PyText.strip text = text := by
  apply String.toList_inj.mp
  rw [PyText.strip_eq]
  have visible : ∀ c ∈ text.toList, ¬ PyText.isSpace c = true := by
    intro c member
    rw [plain_not_space (List.all_eq_true.mp plain c member)]
    decide
  cases shape : text.toList with
  | nil => rfl
  | cons first rest =>
      rw [shape] at visible
      rw [List.dropWhile_cons_of_neg (visible first List.mem_cons_self)]
      apply List.rdropWhile_eq_self_iff.mpr
      intro nonempty
      exact visible _ (List.getLast_mem nonempty)

theorem lower_of_plain {text : String} (plain : text.toList.all isPlain = true) :
    PyText.lower text = text.toList := by
  rw [PyText.lower]
  generalize text.toList = chars at plain
  induction chars with
  | nil => rfl
  | cons c rest ih =>
      simp only [List.all_cons, Bool.and_eq_true] at plain
      rw [List.flatMap_cons, plain_lower plain.1, ih plain.2]
      rfl

/-- A portfolio reference has an underscore. -/
theorem portfolioLike_of_plain {chars : List Char} (plain : chars.all isPlain = true)
    (afterWord : Bool) : portfolioLike afterWord chars = false := by
  induction chars generalizing afterWord with
  | nil => rfl
  | cons c rest ih =>
      simp only [List.all_cons, Bool.and_eq_true] at plain
      have starts : startsPortfolioReference (c :: rest) = false := by
        match rest, plain with
        | [], _ => rfl
        | [_], _ => rfl
        | b :: underscore :: _, plain =>
            simp only [List.all_cons, Bool.and_eq_true] at plain
            simp [startsPortfolioReference, plain_not_underscore plain.2.2.1]
      rw [portfolioLike, starts, ih plain.2, Bool.and_false]
      rfl

/-! ## The identifiers of a system lineage -/

/-- A start that hexadecimal digits can follow in a diagnostic identifier. -/
def isSafeStart (start : List Char) : Bool :=
  (start.head?.any isAsciiAlnum && start.all isPlain && decide (start.length ≤ 72)) &&
    sensitiveContextFragments.all fun fragment =>
      !(fixedPart fragment.toList).isEmpty &&
        !PyText.contains start (fixedPart fragment.toList)

theorem allowed_of_plain {c : Char} (plain : isPlain c = true) :
    (isAsciiAlnum c || c = '.' || c = ':' || c = '-') = true := by
  simp only [isPlain, Bool.or_eq_true, Bool.and_eq_true, decide_eq_true_eq, isAsciiAlnum] at plain ⊢
  rcases plain with (lower | digit) | dash
  · exact Or.inl (Or.inl (Or.inl (Or.inl (Or.inr lower))))
  · exact Or.inl (Or.inl (Or.inl (Or.inr digit)))
  · exact Or.inr dash

theorem productSafe_of_hex {start digits : String} (safe : isSafeStart start.toList = true)
    (hex : digits.toList.all Sha256.isHexDigit = true) (sized : digits.toList.length = 24) :
    isProductSafeContextId (start ++ digits) = true := by
  simp only [isSafeStart, Bool.and_eq_true, decide_eq_true_eq] at safe
  obtain ⟨⟨⟨head, plainStart⟩, short⟩, fragments⟩ := safe
  have plain : (start ++ digits).toList.all isPlain = true := by
    rw [String.toList_append, List.all_append, plainStart, Bool.true_and, List.all_eq_true]
    exact fun c member => plain_of_hexDigit (List.all_eq_true.mp hex c member)
  have unsensitive : (sensitiveContextFragments.any fun fragment =>
      PyText.contains (start ++ digits).toList fragment.toList) = false := by
    rw [List.any_eq_false]
    intro fragment member found
    have own := List.all_eq_true.mp fragments fragment member
    simp only [Bool.and_eq_true, Bool.not_eq_true', List.isEmpty_eq_false_iff] at own
    rw [contains_iff, String.toList_append] at found
    have before := contains_iff.mpr (fixedPart_before hex own.1 found)
    rw [own.2] at before
    cases before
  cases shape : start.toList with
  | nil =>
      rw [shape] at head
      cases head
  | cons first rest =>
      have pattern : matchesContextIdPattern (start ++ digits).toList = true := by
        rw [String.toList_append, shape, List.cons_append]
        rw [shape] at head short
        rw [String.toList_append, shape, List.cons_append] at plain
        simp only [List.all_cons, Bool.and_eq_true] at plain
        have length : (rest ++ digits.toList).length ≤ 95 := by
          rw [List.length_append, sized]
          simp only [List.length_cons] at short
          omega
        have alnum : isAsciiAlnum first = true := by simpa using head
        have others : (rest ++ digits.toList).all
            (fun c => isAsciiAlnum c || c = '.' || c = ':' || c = '-') = true := by
          rw [List.all_eq_true]
          exact fun c member => allowed_of_plain (List.all_eq_true.mp plain.2 c member)
        simp only [matchesContextIdPattern, alnum, others, length, decide_true, Bool.and_self]
      have length : (start ++ digits).toList.length ≤ 96 := by
        rw [String.toList_append, List.length_append, sized]
        omega
      have nonempty : (start ++ digits).toList.isEmpty = false := by
        rw [String.toList_append, shape]
        rfl
      simp only [isProductSafeContextId, strip_of_plain plain, lower_of_plain plain, nonempty,
        length, pattern, unsensitive, portfolioLike_of_plain plain, decide_true, Bool.not_false,
        Bool.and_self]

section
variable [Sha256]

/-- The lineage of the system is always built. -/
theorem systemEventLineage_returns (hex : Sha256.HexText) (sized : Sha256.Sized)
    (eventId : String) : ∃ lineage, systemEventLineage eventId = .ok lineage := by
  have digits := hex 24 eventId
  have width := sized 24 eventId (by omega)
  have correlation : isProductSafeContextId ("corr-system-" ++ Sha256.hexdigest 24 eventId) = true :=
    productSafe_of_hex (by decide +kernel) digits width
  have trace : isProductSafeContextId ("trace-system-" ++ Sha256.hexdigest 24 eventId) = true :=
    productSafe_of_hex (by decide +kernel) digits width
  let fields : EventLineageFields :=
    { correlationId := "corr-system-" ++ Sha256.hexdigest 24 eventId
      traceId := "trace-system-" ++ Sha256.hexdigest 24 eventId
      origin := .systemGenerated }
  have valid : firstFailure fields.normalized.checks = none := by
    rw [EventLineageFields.checks_normalized]
    simp [fields, EventLineageFields.checks, requireProductSafeContextId, correlation, trace]
  exact ⟨_, Checked.make_of_valid valid⟩

end

end LotusIdea
