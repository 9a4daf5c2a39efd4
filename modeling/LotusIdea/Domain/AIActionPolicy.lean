import LotusIdea.Domain.AILineage

/-!
# Action content policy

`ai_action_policy.py`: which labels a proposed action may carry, and the label that
is shown in its place.  The patterns are those of `re`; a pattern of this kind is
asked only whether it matches, so its matches are enumerated in any order.
-/

set_option autoImplicit false

/-! ## Regular expressions -/

inductive Regex where
  | empty
  | one (allowed : Char → Bool)
  | many (allowed : Char → Bool)
  | seq (first second : Regex)
  | alt (first second : Regex)
  | start
  | finish
  | boundary

namespace Regex

/-- A place in a text: the character before it and what follows. -/
abbrev Place := Option Char × List Char

def isWord (c : Char) : Bool := c.isAlphanum || c = '_'

/-- The places behind a run of one or more allowed characters. -/
def runs (allowed : Char → Bool) : List Char → List Place
  | [] => []
  | c :: rest => if allowed c then (some c, rest) :: runs allowed rest else []

/-- The places where a match that starts here may end. -/
def ends : Regex → Place → List Place
  | .empty, place => [place]
  | .one allowed, (_, text) =>
      match text with
      | [] => []
      | c :: rest => if allowed c then [(some c, rest)] else []
  | .many allowed, (_, text) => runs allowed text
  | .seq first second, place => (ends first place).flatMap (ends second)
  | .alt first second, place => ends first place ++ ends second place
  | .start, place => if place.1.isNone then [place] else []
  | .finish, place => if place.2 = [] ∨ place.2 = ['\n'] then [place] else []
  | .boundary, place =>
      if place.1.any isWord != place.2.head?.any isWord then [place] else []

def places (before : Option Char) : List Char → List Place
  | [] => [(before, [])]
  | c :: rest => (before, c :: rest) :: places (some c) rest

/-- `pattern.search(text) is not None`. -/
def search (pattern : Regex) (text : String) : Bool :=
  (places none text.toList).any fun place => !(ends pattern place).isEmpty

/-- `pattern.fullmatch(text) is not None`. -/
def fullmatch (pattern : Regex) (text : String) : Bool :=
  (ends pattern (none, text.toList)).any fun place => place.2.isEmpty

/-- A literal text. -/
def text (literal : String) : Regex :=
  literal.toList.foldr (fun c rest => .seq (.one (· = c)) rest) .empty

/-- The patterns one after another. -/
def all (patterns : List Regex) : Regex := patterns.foldr .seq .empty

/-- `(?:first|second|...)` of literal texts. -/
def oneOf : List String → Regex
  | [] => .one fun _ => false
  | [literal] => text literal
  | literal :: rest => .alt (text literal) (oneOf rest)

/-- `\s+`. -/
def spaces : Regex := .many PyText.isSpace

/-- `(?:pattern)?`. -/
def optional (pattern : Regex) : Regex := .alt pattern .empty

end Regex

namespace LotusIdea

open Regex

inductive AIActionPolicyReason where
  | allowed
  | forbiddenActionType
  | forbiddenActionContent
  | ambiguousActionContent
  deriving DecidableEq, Repr

def AIActionPolicyReason.value : AIActionPolicyReason → String
  | .allowed => "allowed"
  | .forbiddenActionType => "forbidden_action_type"
  | .forbiddenActionContent => "forbidden_action_content"
  | .ambiguousActionContent => "ambiguous_action_content"

structure AIActionPolicyDecision where
  allowed : Bool
  canonicalLabel : String
  reason : AIActionPolicyReason
  policyVersion : String := aiActionPolicyVersion
  deriving DecidableEq

def maxActionLabelLength : Nat := 160

/-- `_CANONICAL_LABELS`. -/
def canonicalLabels : AIProposedActionType → Option String
  | .advisorReview => some "Review the evidence as an advisor"
  | .requestMissingEvidence => some "Request the missing governed evidence"
  | _ => none

/-- `_BLOCKED_LABEL`. -/
def blockedLabel : String := "Action blocked by Lotus Idea policy"

/-- `_SAFE_LABEL_PATTERNS`. -/
def safeLabelPattern : AIProposedActionType → Regex
  | .advisorReview =>
      .alt
        (all [.start, optional (all [text "route", spaces, text "to", spaces]), text "advisor",
          spaces, text "review", .finish])
        (all [.start, text "review", spaces, optional (all [text "the", spaces]),
          text "evidence", optional (all [spaces, text "internally"]), .finish])
  | _ =>
      all [.start, text "request", spaces, optional (all [text "the", spaces]), text "missing",
        spaces, optional (all [text "governed", spaces]), text "evidence", .finish]

/-- `_FORBIDDEN_PATTERNS`. -/
def forbiddenPatterns : List Regex :=
  [all [.boundary, oneOf ["execute", "place", "submit", "create", "send"], spaces,
     optional (.alt (all [text "a", spaces]) (all [text "the", spaces])),
     oneOf ["trade", "order"], .boundary],
   all [.boundary, oneOf ["buy", "sell", "trade", "rebalance"], spaces,
     .alt (oneOf ["now", "immediately"]) (all [text "the", spaces, text "portfolio"]), .boundary],
   all [.boundary, text "approve", spaces, optional (all [text "the", spaces]),
     oneOf ["suitability", "compliance", "mandate"], .boundary],
   all [.boundary,
     .alt (oneOf ["email", "message", "contact", "notify"])
       (all [text "communicate", spaces, text "with"]),
     spaces, optional (all [text "the", spaces]), text "client", .boundary],
   all [.boundary, text "publish", spaces,
     optional (.alt (all [text "this", spaces]) (all [text "the", spaces])),
     oneOf ["recommendation", "communication"], .boundary],
   all [.boundary, text "final", spaces, optional (all [text "investment", spaces]),
     text "recommendation", .boundary]]

/-- `_LEET_TRANSLATION`. -/
def leetTranslation (c : Char) : Char :=
  if c = '0' then 'o' else if c = '1' then 'i' else if c = '3' then 'e' else if c = '4' then 'a'
  else if c = '5' then 's' else if c = '7' then 't' else if c = '@' then 'a'
  else if c = '$' then 's' else c

/-- `str.split()` of a text with no white space but blanks. -/
def blankSplit (chars : List Char) : List (List Char) :=
  (chars.splitOnP (· = ' ')).filter fun word => !word.isEmpty

/-- `_normalize_action_label` of an ASCII label, which is its own NFKC form and whose
letters fold to lower case. -/
def normalizeActionLabel (value : String) : String :=
  let normalized := value.toList.map fun c => leetTranslation c.toLower
  let letters := normalized.map fun c => if c.isLower || c.isDigit then c else ' '
  String.ofList (List.intercalate [' '] (blankSplit letters))

/-- `str.isascii`. -/
def isAscii (value : String) : Bool := value.toList.all fun c => decide (c.toNat < 128)

/-- `evaluate_ai_action_policy`. -/
def evaluateAiActionPolicy (actionType : AIProposedActionType) (actionLabel : String) :
    AIActionPolicyDecision :=
  match canonicalLabels actionType with
  | none => ⟨false, blockedLabel, .forbiddenActionType, aiActionPolicyVersion⟩
  | some canonical =>
      if maxActionLabelLength < actionLabel.toList.length ∨ isAscii actionLabel = false then
        ⟨false, canonical, .ambiguousActionContent, aiActionPolicyVersion⟩
      else
        let normalized := normalizeActionLabel actionLabel
        if forbiddenPatterns.any fun pattern => search pattern normalized then
          ⟨false, canonical, .forbiddenActionContent, aiActionPolicyVersion⟩
        else if fullmatch (safeLabelPattern actionType) normalized = false then
          ⟨false, canonical, .ambiguousActionContent, aiActionPolicyVersion⟩
        else ⟨true, canonical, .allowed, aiActionPolicyVersion⟩

/-- The label shown for an action is its type's, whatever label was submitted. -/
theorem canonicalLabel_eq (actionType : AIProposedActionType) (actionLabel : String) :
    (evaluateAiActionPolicy actionType actionLabel).canonicalLabel =
      (canonicalLabels actionType).getD blockedLabel := by
  unfold evaluateAiActionPolicy
  cases canonicalLabels actionType with
  | none => rfl
  | some canonical =>
      dsimp only
      split_ifs <;> rfl

theorem canonicalLabel_visible (actionType : AIProposedActionType) (actionLabel : String) :
    PyText.isBlank (evaluateAiActionPolicy actionType actionLabel).canonicalLabel = false := by
  rw [canonicalLabel_eq]
  cases actionType <;> decide

/-- An action is allowed for exactly one reason. -/
theorem allowed_iff (actionType : AIProposedActionType) (actionLabel : String) :
    (evaluateAiActionPolicy actionType actionLabel).allowed = true ↔
      (evaluateAiActionPolicy actionType actionLabel).reason = .allowed := by
  unfold evaluateAiActionPolicy
  cases canonicalLabels actionType with
  | none => exact iff_of_false (fun allowed => nomatch allowed) fun reason => nomatch reason
  | some canonical =>
      dsimp only
      split_ifs <;> simp

/-- Whether a type is forbidden does not depend on the label. -/
theorem forbiddenActionType_iff (actionType : AIProposedActionType) (actionLabel : String) :
    (evaluateAiActionPolicy actionType actionLabel).reason = .forbiddenActionType ↔
      canonicalLabels actionType = none := by
  unfold evaluateAiActionPolicy
  cases canonicalLabels actionType with
  | none => exact iff_of_true rfl rfl
  | some canonical =>
      dsimp only
      split_ifs <;> simp

example : (evaluateAiActionPolicy .advisorReview "Review the ev1dence").allowed = true := by
  decide +kernel

example : (evaluateAiActionPolicy .advisorReview "Place the 0rder; advisor review").reason =
    .forbiddenActionContent := by
  decide +kernel

end LotusIdea
