import LotusIdea.Domain.Vocabulary
import Mathlib.Data.List.Infix

/-!
# The statements of an SQL script

`_sql_statements` of `migrations.py`: comments are dropped, and the text is cut at the
semicolons outside of quotes.  What it gives is read the same way when it is read again.
-/

set_option autoImplicit false

namespace LotusIdea

/-! ## The loop -/

def isTagStart (c : Char) : Bool :=
  ('A' ≤ c && c ≤ 'Z') || ('a' ≤ c && c ≤ 'z') || c == '_'

def isTagChar (c : Char) : Bool := isTagStart c || ('0' ≤ c && c ≤ '9')

/-- `\$(?:[A-Za-z_][A-Za-z0-9_]*)?\$` at the start of the text. -/
def dollarQuote : List Char → Option (List Char)
  | '$' :: text =>
      let tag := text.takeWhile isTagChar
      if (text.dropWhile isTagChar).head? = some '$' ∧ tag.head?.all isTagStart = true then
        some ('$' :: (tag ++ ['$']))
      else none
  | _ => none

/-- What one round of the loop appends to `current`, with `quote` and the text after it. -/
structure SqlToken where
  text : List Char
  quote : Option (List Char)
  rest : List Char
  deriving DecidableEq

/-- A quote that is written twice does not end. -/
def doubles (quote : List Char) : Bool := quote == ['\''] || quote == ['"']

/-- One round, unless the text is at its end or at a semicolon outside of quotes. -/
def sqlToken : Option (List Char) → List Char → Option SqlToken
  | _, [] => none
  | some quote, c :: rest =>
      if quote.isPrefixOf (c :: rest) then
        let after := (c :: rest).drop quote.length
        if doubles quote && quote.isPrefixOf after then
          some ⟨quote ++ quote, some quote, after.drop quote.length⟩
        else some ⟨quote, none, after⟩
      else some ⟨[c], some quote, rest⟩
  | none, c :: rest =>
      if ['-', '-'].isPrefixOf (c :: rest) then
        some ⟨['\n'], none, ((c :: rest).dropWhile (· ≠ '\n')).drop 1⟩
      else if c = '\'' ∨ c = '"' then some ⟨[c], some [c], rest⟩
      else
        match dollarQuote (c :: rest) with
        | some quote => some ⟨quote, some quote, (c :: rest).drop quote.length⟩
        | none => if c = ';' then none else some ⟨[c], none, rest⟩

structure SqlScan where
  quote : Option (List Char) := none
  current : List Char := []
  statements : List String := []
  rest : List Char

/-- `"".join(current).strip()`, where it is not empty, as a statement. -/
def statementOf (current : List Char) : List String :=
  let statement := PyText.strip (String.ofList current)
  if statement = "" then [] else [statement ++ ";"]

namespace SqlScan

def step (s : SqlScan) : SqlScan :=
  match sqlToken s.quote s.rest with
  | some token =>
      { s with quote := token.quote, current := s.current ++ token.text, rest := token.rest }
  | none =>
      { s with
        statements := s.statements ++ statementOf s.current, current := []
        rest := s.rest.drop 1 }

/-- Each round takes a character at least, so as many rounds as characters are enough. -/
def scan : ℕ → SqlScan → SqlScan
  | 0, s => s
  | n + 1, s => if s.rest = [] then s else scan n s.step

end SqlScan

/-- `_sql_statements`. -/
def sqlStatements (sql : String) : Except PyError (List String) :=
  let last := SqlScan.scan sql.toList.length { rest := sql.toList }
  match last.quote with
  | some quote => .error (.valueError ("Unterminated SQL quote " ++ String.ofList quote))
  | none => .ok (last.statements ++ statementOf last.current)

/-! ## Quotes -/

/-- What `quote` can be. -/
inductive IsQuote : List Char → Prop
  | single : IsQuote ['\'']
  | double : IsQuote ['"']
  | dollar (tag : List Char) (tagged : tag.all isTagChar = true)
      (starts : tag.head?.all isTagStart = true) : IsQuote ('$' :: (tag ++ ['$']))

theorem dollarQuote_eq_some {text quote : List Char} (found : dollarQuote text = some quote) :
    ∃ tag after, quote = '$' :: (tag ++ ['$']) ∧ tag.all isTagChar = true ∧
      tag.head?.all isTagStart = true ∧ text = quote ++ after := by
  unfold dollarQuote at found
  split at found
  · rename_i text
    dsimp only at found
    split at found
    · rename_i closes
      cases found
      obtain ⟨after, ends⟩ := List.head?_eq_some_iff.mp closes.1
      refine ⟨_, after, rfl, List.all_takeWhile, closes.2, ?_⟩
      rw [List.cons_append, List.append_assoc, List.singleton_append, ← ends,
        List.takeWhile_append_dropWhile]
    · cases found
  · cases found

theorem not_isTagChar_dollar : isTagChar '$' = false := by decide

theorem dollarQuote_tag {tag : List Char} (tagged : tag.all isTagChar = true)
    (starts : tag.head?.all isTagStart = true) (after : List Char) :
    dollarQuote (('$' :: (tag ++ ['$'])) ++ after) = some ('$' :: (tag ++ ['$'])) := by
  have own : (tag ++ '$' :: after).takeWhile isTagChar = tag := by
    rw [List.takeWhile_append_of_pos (by simpa using tagged)]
    simp [not_isTagChar_dollar]
  have ends : (tag ++ '$' :: after).dropWhile isTagChar = '$' :: after := by
    rw [List.dropWhile_append_of_pos (by simpa using tagged)]
    simp [not_isTagChar_dollar]
  simp only [dollarQuote, List.cons_append, List.append_assoc, List.nil_append, own, ends]
  simp [starts]


theorem isTagChar_unstopped {c : Char} (tagged : isTagChar c = true) : c ≠ '\n' ∧ c ≠ ';' := by
  refine ⟨?_, ?_⟩ <;> rintro rfl <;> revert tagged <;> decide

namespace IsQuote
variable {quote : List Char}

/-- No quote holds a line break or a semicolon. -/
theorem unstopped (isQuote : IsQuote quote) : ∀ c ∈ quote, c ≠ '\n' ∧ c ≠ ';' := by
  intro c member
  cases isQuote with
  | single | double =>
      rw [List.mem_singleton] at member
      subst member
      decide
  | dollar tag tagged starts =>
      rcases List.mem_cons.mp member with rfl | member
      · decide
      rcases List.mem_append.mp member with inTag | closing
      · exact isTagChar_unstopped (List.all_eq_true.mp tagged c inTag)
      · rw [List.mem_singleton] at closing
        subst closing
        decide

theorem starts_visible (isQuote : IsQuote quote) :
    ∃ c back, quote = c :: back ∧ PyText.isSpace c = false := by
  cases isQuote with
  | single => exact ⟨_, [], rfl, by decide⟩
  | double => exact ⟨_, [], rfl, by decide⟩
  | dollar tag tagged starts => exact ⟨_, _, rfl, by decide⟩

theorem ends_visible (isQuote : IsQuote quote) :
    ∃ front c, quote = front ++ [c] ∧ PyText.isSpace c = false := by
  cases isQuote with
  | single => exact ⟨[], _, rfl, by decide⟩
  | double => exact ⟨[], _, rfl, by decide⟩
  | dollar tag tagged starts => exact ⟨'$' :: tag, '$', rfl, by decide⟩

end IsQuote

/-! ## Tokens -/

/-- The rounds of the loop. -/
inductive Token : Option (List Char) → List Char → SqlToken → Prop
  | doubled (quote after : List Char) (doubles : doubles quote = true) :
      Token (some quote) (quote ++ (quote ++ after)) ⟨quote ++ quote, some quote, after⟩
  | closed (quote after : List Char) (ends : ¬(doubles quote = true ∧ quote <+: after)) :
      Token (some quote) (quote ++ after) ⟨quote, none, after⟩
  | inside (quote : List Char) (c : Char) (rest : List Char) (stays : ¬quote <+: c :: rest) :
      Token (some quote) (c :: rest) ⟨[c], some quote, rest⟩
  | comment (text : List Char) :
      Token none ('-' :: '-' :: text)
        ⟨['\n'], none, (('-' :: '-' :: text).dropWhile (· ≠ '\n')).drop 1⟩
  | opened (c : Char) (rest : List Char) (opens : c = '\'' ∨ c = '"') :
      Token none (c :: rest) ⟨[c], some [c], rest⟩
  | dollar (tag after : List Char) (tagged : tag.all isTagChar = true)
      (starts : tag.head?.all isTagStart = true) :
      Token none (('$' :: (tag ++ ['$'])) ++ after)
        ⟨'$' :: (tag ++ ['$']), some ('$' :: (tag ++ ['$'])), after⟩
  | plain (c : Char) (rest : List Char) (uncommented : ¬['-', '-'] <+: c :: rest)
      (unquoted : c ≠ '\'' ∧ c ≠ '"') (untagged : dollarQuote (c :: rest) = none)
      (within : c ≠ ';') : Token none (c :: rest) ⟨[c], none, rest⟩

/-- `quote` is one that the loop can be in. -/
def ValidQuote (quote : Option (List Char)) : Prop := ∀ q, quote = some q → IsQuote q

theorem validQuote_none : ValidQuote none := by
  intro q held
  cases held

theorem validQuote_some {quote : List Char} (isQuote : IsQuote quote) :
    ValidQuote (some quote) := by
  intro q held
  cases held
  exact isQuote

section Token
variable {quote : Option (List Char)} {rest : List Char} {token : SqlToken}

theorem token_of (found : sqlToken quote rest = some token) : Token quote rest token := by
  unfold sqlToken at found
  split at found
  · cases found
  · rename_i quote c rest
    split at found
    · rename_i starts
      obtain ⟨after, whole⟩ := List.isPrefixOf_iff_prefix.mp starts
      rw [← whole] at found ⊢
      simp only [List.drop_left] at found
      split at found
      · rename_i twice
        rw [Bool.and_eq_true, List.isPrefixOf_iff_prefix] at twice
        obtain ⟨twice, further, again⟩ := twice
        subst again
        rw [List.drop_left] at found
        cases found
        exact .doubled quote further twice
      · rename_i once
        rw [Bool.and_eq_true, List.isPrefixOf_iff_prefix] at once
        cases found
        exact .closed quote after once
    · rename_i stays
      rw [List.isPrefixOf_iff_prefix] at stays
      cases found
      exact .inside quote c rest stays
  · rename_i c rest
    split at found
    · rename_i dashes
      obtain ⟨text, whole⟩ := List.isPrefixOf_iff_prefix.mp dashes
      rw [← whole] at found ⊢
      cases found
      exact .comment text
    rename_i uncommented
    rw [List.isPrefixOf_iff_prefix] at uncommented
    split at found
    · rename_i opens
      cases found
      exact .opened c rest opens
    rename_i unquoted
    rw [not_or] at unquoted
    split at found
    · rename_i quote tagged
      obtain ⟨tag, after, rfl, letters, starts, whole⟩ := dollarQuote_eq_some tagged
      rw [whole, List.drop_left] at found
      rw [whole]
      cases found
      exact .dollar tag after letters starts
    · rename_i untagged
      split at found
      · cases found
      · rename_i within
        cases found
        exact .plain c rest uncommented unquoted untagged within

theorem sqlToken_eq_none {c : Char} (stops : sqlToken quote (c :: rest) = none) :
    quote = none ∧ c = ';' := by
  cases quote with
  | some q =>
      unfold sqlToken at stops
      simp only at stops
      split at stops
      · split at stops <;> cases stops
      · cases stops
  | none =>
      unfold sqlToken at stops
      simp only at stops
      split at stops
      · cases stops
      split at stops
      · cases stops
      split at stops
      · cases stops
      split at stops
      · exact ⟨rfl, ‹_›⟩
      · cases stops

/-- Where the quote stands, it ends or is doubled. -/
theorem sqlToken_at {quote : List Char} (isQuote : IsQuote quote) (after : List Char) :
    sqlToken (some quote) (quote ++ after) =
      if doubles quote && quote.isPrefixOf after then
        some ⟨quote ++ quote, some quote, after.drop quote.length⟩
      else some ⟨quote, none, after⟩ := by
  have stands : quote.isPrefixOf (quote ++ after) = true :=
    List.isPrefixOf_iff_prefix.mpr (List.prefix_append quote after)
  have behind : (quote ++ after).drop quote.length = after := List.drop_left
  obtain ⟨c, back, whole, -⟩ := isQuote.starts_visible
  cases text : quote ++ after with
  | nil => simp [whole] at text
  | cons first rest =>
      rw [text] at stands behind
      simp only [sqlToken, if_pos stands, behind]

/-- Every such round is one of the loop. -/
theorem Token.found (valid : ValidQuote quote) (found : Token quote rest token) :
    sqlToken quote rest = some token := by
  cases found with
  | doubled quote after twice =>
      rw [sqlToken_at (valid quote rfl), if_pos, List.drop_left]
      rw [Bool.and_eq_true, List.isPrefixOf_iff_prefix]
      exact ⟨twice, List.prefix_append quote after⟩
  | closed quote after ends =>
      rw [sqlToken_at (valid quote rfl), if_neg]
      rw [Bool.and_eq_true, List.isPrefixOf_iff_prefix]
      exact ends
  | inside quote c rest stays =>
      rw [← List.isPrefixOf_iff_prefix] at stays
      simp only [sqlToken, if_neg stays]
  | comment text => rfl
  | opened c rest opens =>
      rcases opens with rfl | rfl <;> rfl
  | dollar tag after tagged starts =>
      have quoted := dollarQuote_tag tagged starts after
      have behind : (('$' :: (tag ++ ['$'])) ++ after).drop ('$' :: (tag ++ ['$'])).length = after :=
        List.drop_left
      rw [List.cons_append] at quoted behind ⊢
      have undashed : ¬['-', '-'].isPrefixOf ('$' :: ((tag ++ ['$']) ++ after)) = true := by
        simp [List.isPrefixOf]
      simp only [sqlToken, if_neg undashed, quoted, behind]
      rfl
  | plain c rest uncommented unquoted untagged within =>
      rw [← List.isPrefixOf_iff_prefix] at uncommented
      simp only [sqlToken, if_neg uncommented, unquoted.1, unquoted.2, or_self, if_false, untagged,
        if_neg within]

theorem Token.valid (valid : ValidQuote quote) (found : Token quote rest token) :
    ValidQuote token.quote := by
  cases found with
  | doubled quote after twice => exact valid
  | closed quote after ends => exact validQuote_none
  | inside quote c rest stays => exact valid
  | comment text => exact validQuote_none
  | opened c rest opens =>
      rcases opens with rfl | rfl
      · exact validQuote_some .single
      · exact validQuote_some .double
  | dollar tag after tagged starts => exact validQuote_some (.dollar tag tagged starts)
  | plain c rest uncommented unquoted untagged within => exact validQuote_none

/-- A token that may end in white space is one character, and changes no quote. -/
theorem Token.ends (valid : ValidQuote quote) (found : Token quote rest token) :
    (∃ c, token.text = [c] ∧ token.quote = quote) ∨
      ∃ front c, token.text = front ++ [c] ∧ PyText.isSpace c = false := by
  cases found with
  | doubled quote after twice =>
      obtain ⟨front, c, whole, visible⟩ := (valid quote rfl).ends_visible
      refine Or.inr ⟨quote ++ front, c, ?_, visible⟩
      rw [List.append_assoc, ← whole]
  | closed quote after ends => exact Or.inr (valid quote rfl).ends_visible
  | inside quote c rest stays => exact Or.inl ⟨c, rfl, rfl⟩
  | comment text => exact Or.inl ⟨_, rfl, rfl⟩
  | opened c rest opens =>
      refine Or.inr ⟨[], c, rfl, ?_⟩
      rcases opens with rfl | rfl <;> decide
  | dollar tag after tagged starts => exact Or.inr (IsQuote.dollar tag tagged starts).ends_visible
  | plain c rest uncommented unquoted untagged within => exact Or.inl ⟨c, rfl, rfl⟩

/-- Outside of quotes, so is one that may start with white space. -/
theorem Token.starts (found : Token none rest token) :
    (∃ c, token.text = [c] ∧ token.quote = none) ∨
      ∃ c back, token.text = c :: back ∧ PyText.isSpace c = false := by
  cases found with
  | comment text => exact Or.inl ⟨_, rfl, rfl⟩
  | opened c rest opens =>
      refine Or.inr ⟨c, [], rfl, ?_⟩
      rcases opens with rfl | rfl <;> decide
  | dollar tag after tagged starts => exact Or.inr (IsQuote.dollar tag tagged starts).starts_visible
  | plain c rest uncommented unquoted untagged within => exact Or.inl ⟨c, rfl, rfl⟩

/-- A round takes a character at least. -/
theorem Token.shortens (valid : ValidQuote quote) (found : Token quote rest token) :
    token.rest.length < rest.length := by
  cases found with
  | doubled quote after twice =>
      obtain ⟨c, back, rfl, -⟩ := (valid quote rfl).starts_visible
      simp only [List.length_append, List.length_cons]
      omega
  | closed quote after ends =>
      obtain ⟨c, back, rfl, -⟩ := (valid quote rfl).starts_visible
      simp only [List.length_append, List.length_cons]
      omega
  | comment text =>
      have short := (List.dropWhile_suffix (· ≠ '\n') (l := '-' :: '-' :: text)).length_le
      simp only [List.length_drop, List.length_cons] at short ⊢
      omega
  | dollar tag after tagged starts =>
      simp only [List.length_append, List.length_cons]
      omega
  | inside | opened | plain => exact Nat.lt_succ_self _

end Token

/-! ## The same text again -/

/-- Both texts go on alike, up to where the second has a line break or a semicolon. -/
inductive Agrees : List Char → List Char → Prop
  | stop (text : List Char) {c : Char} (stops : c = '\n' ∨ c = ';') (more : List Char) :
      Agrees text (c :: more)
  | same (c : Char) {text other : List Char} (agrees : Agrees text other) :
      Agrees (c :: text) (c :: other)

theorem Agrees.append {text other : List Char} (agrees : Agrees text other) (shared : List Char) :
    Agrees (shared ++ text) (shared ++ other) := by
  induction shared with
  | nil => exact agrees
  | cons c rest ih => exact ih.same c

/-- What starts the second text starts the first, without a break or a semicolon in it. -/
theorem Agrees.starts {text other start : List Char} (agrees : Agrees text other)
    (unstopped : ∀ c ∈ start, c ≠ '\n' ∧ c ≠ ';') (found : start <+: other) : start <+: text := by
  induction agrees generalizing start with
  | stop text stops more =>
      cases start with
      | nil => exact List.nil_prefix
      | cons c rest =>
          obtain ⟨rfl, -⟩ := List.cons_prefix_cons.mp found
          have bars := unstopped c List.mem_cons_self
          rcases stops with rfl | rfl
          · exact absurd rfl bars.1
          · exact absurd rfl bars.2
  | same c agrees ih =>
      cases start with
      | nil => exact List.nil_prefix
      | cons first rest =>
          obtain ⟨rfl, further⟩ := List.cons_prefix_cons.mp found
          refine List.cons_prefix_cons.mpr ⟨rfl, ih ?_ further⟩
          intro c member
          exact unstopped c (List.mem_cons_of_mem _ member)

theorem dashes_unstopped : ∀ c ∈ ['-', '-'], c ≠ '\n' ∧ c ≠ ';' := by
  simp

section Again
variable {quote : Option (List Char)} {rest other : List Char} {token : SqlToken}

/-- What a round gave is the same round of a text that starts with it. -/
theorem Token.again (valid : ValidQuote quote) (found : Token quote rest token)
    (agrees : Agrees token.rest other) :
    Token quote (token.text ++ other) ⟨token.text, token.quote, other⟩ ∧
      Agrees rest (token.text ++ other) := by
  cases found with
  | doubled quote after twice =>
      rw [← List.append_assoc]
      refine ⟨?_, agrees.append _⟩
      rw [List.append_assoc]
      exact .doubled quote other twice
  | closed quote after ends =>
      refine ⟨.closed quote other ?_, agrees.append quote⟩
      rintro ⟨twice, further⟩
      exact ends ⟨twice, agrees.starts (valid quote rfl).unstopped further⟩
  | inside quote c rest stays =>
      refine ⟨.inside quote c other ?_, agrees.same c⟩
      intro closes
      exact stays ((agrees.same c).starts (valid quote rfl).unstopped closes)
  | comment text =>
      refine ⟨.plain '\n' other ?_ (by decide) rfl (by decide), .stop _ (Or.inl rfl) other⟩
      simp
  | opened c rest opens => exact ⟨.opened c other opens, agrees.same c⟩
  | dollar tag after tagged starts => exact ⟨.dollar tag other tagged starts, agrees.append _⟩
  | plain c rest uncommented unquoted untagged within =>
      have sameText := agrees.same c
      refine ⟨.plain c other ?_ unquoted ?_ within, sameText⟩
      · intro dashes
        exact uncommented (sameText.starts dashes_unstopped dashes)
      · cases tagged : dollarQuote (c :: other) with
        | none => rfl
        | some quote =>
            obtain ⟨tag, after, rfl, letters, starts, whole⟩ := dollarQuote_eq_some tagged
            have isQuote := IsQuote.dollar tag letters starts
            obtain ⟨further, own⟩ := sameText.starts isQuote.unstopped (whole ▸ List.prefix_append _ _)
            have found := dollarQuote_tag letters starts further
            rw [own, untagged] at found
            cases found

end Again

/-! ## Up to a semicolon -/

/-- What the rounds append before the text ends, or comes to a semicolon outside of quotes. -/
inductive Body : Option (List Char) → List Char → List Char → List Char → Prop
  | stop {rest : List Char} (ends : rest = [] ∨ ∃ more, rest = ';' :: more) :
      Body none rest [] rest
  | next {quote : Option (List Char)} {rest body last : List Char} {token : SqlToken}
      (first : Token quote rest token) (further : Body token.quote token.rest body last) :
      Body quote rest (token.text ++ body) last

section Body
variable {quote : Option (List Char)} {rest body spaces last : List Char}

/-- A quote that is open is closed in the body. -/
theorem Body.visible {q : List Char} (valid : ValidQuote quote) (opened : quote = some q)
    (read : Body quote rest body last) : ∃ c ∈ body, PyText.isSpace c = false := by
  induction read with
  | stop ends => cases opened
  | next first further ih =>
      rcases first.ends valid with ⟨c, -, same⟩ | ⟨front, c, whole, seen⟩
      · obtain ⟨d, member, seen⟩ := ih (first.valid valid) (same.trans opened)
        exact ⟨d, List.mem_append_right _ member, seen⟩
      · refine ⟨c, List.mem_append_left _ ?_, seen⟩
        rw [whole]
        simp

/-- A body without the white space at its end, with a semicolon behind it, is read as it is. -/
theorem Body.again (valid : ValidQuote quote) (read : Body quote rest body last)
    {kept : List Char} (split : body = kept ++ spaces)
    (blank : ∀ c ∈ spaces, PyText.isSpace c = true) (more : List Char) :
    Body quote (kept ++ ';' :: more) kept (';' :: more) ∧ Agrees rest (kept ++ ';' :: more) := by
  induction read generalizing kept with
  | stop ends =>
      obtain ⟨rfl, -⟩ := List.append_eq_nil_iff.mp split.symm
      exact ⟨.stop (Or.inr ⟨more, rfl⟩), .stop _ (Or.inr rfl) more⟩
  | @next quote rest body last token first further ih =>
      -- The token lies before the cut, but for a blank where nothing is kept.
      have before : (∃ later, kept = token.text ++ later ∧ body = later ++ spaces) ∨
          kept = [] ∧ quote = none := by
        rcases List.append_eq_append_iff.mp split with ⟨later, own, rest⟩ | ⟨cut, own, rest⟩
        · exact Or.inl ⟨later, own, rest⟩
        by_cases whole : cut = []
        · subst whole
          rw [List.append_nil] at own
          rw [List.nil_append] at rest
          exact Or.inl ⟨[], by rw [own, List.append_nil], by rw [rest, List.nil_append]⟩
        rcases first.ends valid with ⟨c, single, same⟩ | ⟨front, c, shape, seen⟩
        · refine Or.inr ⟨?_, ?_⟩
          · rw [single] at own
            rcases List.singleton_eq_append_iff.mp own with ⟨none, -⟩ | ⟨-, none⟩
            · exact none
            · exact absurd none whole
          · cases held : quote with
            | none => rfl
            | some q =>
                obtain ⟨d, member, seen⟩ := further.visible (first.valid valid) (same.trans held)
                have white := blank d (by rw [rest]; exact List.mem_append_right _ member)
                rw [seen] at white
                cases white
        · -- The last character of the token would be white space.
          have last := congrArg List.getLast? (shape.symm.trans own)
          rw [List.getLast?_concat, List.getLast?_append_of_ne_nil _ whole] at last
          have white := blank c (by
            rw [rest]
            exact List.mem_append_left _ (List.mem_of_getLast? last.symm))
          rw [seen] at white
          cases white
      rcases before with ⟨later, rfl, rest⟩ | ⟨rfl, rfl⟩
      · obtain ⟨readAgain, agrees⟩ := ih (first.valid valid) rest
        obtain ⟨firstAgain, agrees⟩ := first.again valid agrees
        rw [List.append_assoc]
        have whole := Body.next firstAgain readAgain
        exact ⟨whole, agrees⟩
      · exact ⟨.stop (Or.inr ⟨more, rfl⟩), .stop _ (Or.inr rfl) more⟩

/-- White space at its start can be left out. -/
theorem Body.trimmed (blank : ∀ c ∈ spaces, PyText.isSpace c = true)
    (read : Body none rest (spaces ++ body) last) : ∃ later, Body none later body last := by
  induction spaces generalizing rest with
  | nil => exact ⟨rest, read⟩
  | cons c spaces ih =>
      generalize whole : c :: spaces ++ body = text at read
      cases read with
      | stop ends => cases whole
      | next first further =>
          rcases first.starts with ⟨d, single, same⟩ | ⟨d, back, shape, seen⟩
          · rw [single] at whole
            cases whole
            rw [same] at further
            exact ih (fun e member => blank e (List.mem_cons_of_mem _ member)) further
          · rw [shape] at whole
            rw [← (List.cons.inj whole).1, blank c List.mem_cons_self] at seen
            cases seen

theorem Body.stops (read : Body quote rest body last) :
    last = [] ∨ ∃ more, last = ';' :: more := by
  induction read with
  | stop ends => exact ends
  | next first further ih => exact ih

theorem Body.shortens (valid : ValidQuote quote) (read : Body quote rest body last) :
    last.length ≤ rest.length := by
  induction read with
  | stop ends => exact le_rfl
  | next first further ih => exact (ih (first.valid valid)).trans (first.shortens valid).le

/-- Where there is no comment, the text is the body and what comes after it. -/
theorem Body.whole (read : Body quote rest body last) (uncommented : ¬['-', '-'] <:+: rest) :
    rest = body ++ last := by
  induction read with
  | stop ends => rfl
  | @next quote rest body last token first further ih =>
      have own : rest = token.text ++ token.rest := by
        cases first with
        | comment text => exact absurd ⟨[], text, rfl⟩ uncommented
        | doubled => exact (List.append_assoc ..).symm
        | closed | inside | opened | dollar | plain => rfl
      have later : ¬['-', '-'] <:+: token.rest := by
        intro found
        rw [own] at uncommented
        exact uncommented (List.infix_append_of_infix_right found)
      rw [own, ih later, List.append_assoc, ← ih later]

end Body

/-! ## The loop reads bodies -/

namespace SqlScan
variable {s : SqlScan} {quote : Option (List Char)} {rest body last : List Char}

theorem step_next {token : SqlToken} (valid : ValidQuote s.quote)
    (found : Token s.quote s.rest token) :
    s.step = ⟨token.quote, s.current ++ token.text, s.statements, token.rest⟩ := by
  rw [step, found.found valid]

theorem step_shortens (valid : ValidQuote s.quote) (further : s.rest ≠ []) :
    ValidQuote s.step.quote ∧ s.step.rest.length < s.rest.length := by
  cases token : sqlToken s.quote s.rest with
  | some token =>
      have found := token_of token
      rw [step_next valid found]
      exact ⟨found.valid valid, found.shortens valid⟩
  | none =>
      simp only [step, token, List.length_drop]
      have positive := List.length_pos_of_ne_nil further
      exact ⟨valid, by omega⟩

theorem scan_nil (n : ℕ) (ended : s.rest = []) : scan n s = s := by
  cases n with
  | zero => rfl
  | succ n => rw [scan, if_pos ended]

/-- As many rounds as characters are enough. -/
theorem scan_enough {n m : ℕ} (valid : ValidQuote s.quote) (first : s.rest.length ≤ n)
    (second : s.rest.length ≤ m) : scan n s = scan m s := by
  induction n generalizing m s with
  | zero =>
      have ended := List.eq_nil_of_length_eq_zero (Nat.le_zero.mp first)
      rw [scan_nil 0 ended, scan_nil m ended]
  | succ n ih =>
      by_cases ended : s.rest = []
      · rw [scan_nil _ ended, scan_nil _ ended]
      obtain ⟨stepValid, shorter⟩ := step_shortens valid ended
      cases m with
      | zero => exact absurd (List.eq_nil_of_length_eq_zero (Nat.le_zero.mp second)) ended
      | succ m =>
          rw [scan, scan, if_neg ended, if_neg ended]
          exact ih stepValid (by omega) (by omega)

/-- The loop to its end. -/
def scanAll (s : SqlScan) : SqlScan := scan s.rest.length s

theorem scanAll_nil (ended : s.rest = []) : scanAll s = s := scan_nil _ ended

theorem scanAll_step (valid : ValidQuote s.quote) (further : s.rest ≠ []) :
    scanAll s = scanAll s.step := by
  obtain ⟨stepValid, shorter⟩ := step_shortens valid further
  cases count : s.rest.length with
  | zero => exact absurd (List.eq_nil_of_length_eq_zero count) further
  | succ n =>
      rw [scanAll, count, scan, if_neg further]
      exact scan_enough stepValid (by omega) le_rfl

theorem scanAll_next {token : SqlToken} (valid : ValidQuote quote)
    (found : Token quote rest token) (current : List Char) (statements : List String) :
    scanAll ⟨quote, current, statements, rest⟩ =
      scanAll ⟨token.quote, current ++ token.text, statements, token.rest⟩ := by
  have further : rest ≠ [] := List.ne_nil_of_length_pos (by have := found.shortens valid; omega)
  rw [scanAll_step valid further, step_next valid found]

theorem scanAll_semicolon (current : List Char) (statements : List String) (more : List Char) :
    scanAll ⟨none, current, statements, ';' :: more⟩ =
      scanAll ⟨none, [], statements ++ statementOf current, more⟩ := by
  rw [scanAll_step validQuote_none (List.cons_ne_nil _ _)]
  rfl

theorem scanAll_body (valid : ValidQuote quote) (read : Body quote rest body last)
    (current : List Char) (statements : List String) :
    scanAll ⟨quote, current, statements, rest⟩ =
      scanAll ⟨none, current ++ body, statements, last⟩ := by
  induction read generalizing current with
  | stop ends => rw [List.append_nil]
  | next first further ih =>
      rw [scanAll_next valid first, ih (first.valid valid), List.append_assoc]

/-- Either a body is read, or a quote is open at the end. -/
theorem body_or_open (valid : ValidQuote quote) : (∃ body last, Body quote rest body last) ∨
    ∀ current statements, (scanAll ⟨quote, current, statements, rest⟩).quote ≠ none := by
  induction length : rest.length using Nat.strong_induction_on generalizing quote rest with
  | _ n ih =>
      subst length
      cases token : sqlToken quote rest with
      | some token =>
          have found := token_of token
          rcases ih _ (found.shortens valid) (found.valid valid) rfl with
            ⟨body, last, read⟩ | stays
          · exact Or.inl ⟨_, last, .next found read⟩
          · refine Or.inr ?_
            intro current statements
            rw [scanAll_next valid found]
            exact stays _ statements
      | none =>
          cases rest with
          | nil =>
              cases quote with
              | none => exact Or.inl ⟨[], [], .stop (Or.inl rfl)⟩
              | some q =>
                  refine Or.inr ?_
                  intro current statements open_
                  cases open_
          | cons c rest =>
              obtain ⟨rfl, rfl⟩ := sqlToken_eq_none token
              exact Or.inl ⟨[], _, .stop (Or.inr ⟨rest, rfl⟩)⟩

end SqlScan

/-- The bodies of a text, one before each semicolon and one behind the last. -/
inductive Bodies : List Char → List (List Char) → Prop
  | last {text body : List Char} (read : Body none text body []) : Bodies text [body]
  | next {text body more : List Char} {bodies : List (List Char)}
      (read : Body none text body (';' :: more)) (further : Bodies more bodies) :
      Bodies text (body :: bodies)

section Bodies
open SqlScan
variable {text : List Char} {bodies : List (List Char)}

theorem Bodies.scans (read : Bodies text bodies) (statements : List String) :
    (scanAll ⟨none, [], statements, text⟩).quote = none ∧
      (scanAll ⟨none, [], statements, text⟩).statements ++
          statementOf (scanAll ⟨none, [], statements, text⟩).current =
        statements ++ bodies.flatMap statementOf := by
  induction read generalizing statements with
  | last read =>
      rw [scanAll_body validQuote_none read, scanAll_nil rfl]
      simp
  | next read further ih =>
      rw [scanAll_body validQuote_none read, scanAll_semicolon]
      obtain ⟨closed, all⟩ := ih (statements ++ statementOf ([] ++ _))
      refine ⟨closed, ?_⟩
      rw [all]
      simp [List.append_assoc]

theorem bodies_or_open : (∃ bodies, Bodies text bodies) ∨
    ∀ statements, (scanAll ⟨none, [], statements, text⟩).quote ≠ none := by
  induction length : text.length using Nat.strong_induction_on generalizing text with
  | _ n ih =>
      subst length
      have either := @body_or_open none text validQuote_none
      rcases either with ⟨body, last, read⟩ | stays
      · rcases read.stops with rfl | ⟨more, rfl⟩
        · exact Or.inl ⟨_, .last read⟩
        · have shorter : more.length < text.length := by
            have := read.shortens validQuote_none
            rw [List.length_cons] at this
            omega
          rcases ih _ shorter rfl with ⟨bodies, further⟩ | stays
          · exact Or.inl ⟨_, .next read further⟩
          · refine Or.inr ?_
            intro statements
            rw [scanAll_body validQuote_none read, scanAll_semicolon]
            exact stays _
      · exact Or.inr fun statements => stays [] statements

/-- The statements are those of the bodies. -/
theorem sqlStatements_eq_ok {sql : String} {statements : List String} :
    sqlStatements sql = .ok statements ↔
      ∃ bodies, Bodies sql.toList bodies ∧ statements = bodies.flatMap statementOf := by
  have loop : scan sql.toList.length { rest := sql.toList } = scanAll ⟨none, [], [], sql.toList⟩ :=
    rfl
  rw [sqlStatements, loop]
  constructor
  · intro split
    rcases @bodies_or_open sql.toList with ⟨bodies, read⟩ | stays
    · obtain ⟨closed, all⟩ := read.scans []
      rw [closed] at split
      cases split
      exact ⟨bodies, read, all⟩
    · have opened := stays []
      cases found : (scanAll ⟨none, [], [], sql.toList⟩).quote with
      | none => exact absurd found opened
      | some q =>
          rw [found] at split
          cases split
  · rintro ⟨bodies, read, rfl⟩
    obtain ⟨closed, all⟩ := read.scans []
    rw [closed]
    exact congrArg Except.ok all

/-- A text that is read as one statement, whatever stands behind its semicolon. -/
structure Stable (core : String) : Prop where
  stripped : PyText.strip core = core
  visible : core ≠ ""
  reads : ∀ more, Body none (core.toList ++ ';' :: more) core.toList (';' :: more)

theorem statementOf_stable {core : String} (stable : Stable core) :
    statementOf core.toList = [core ++ ";"] := by
  rw [statementOf, String.ofList_toList, stable.stripped]
  exact if_neg stable.visible

theorem statementOf_newline {core : String} (stable : Stable core) :
    statementOf ('\n' :: core.toList) = [core ++ ";"] := by
  have trimmed : PyText.strip (String.ofList ('\n' :: core.toList)) = core := by
    refine Eq.trans ?_ stable.stripped
    apply String.toList_inj.mp
    rw [PyText.strip_eq, PyText.strip_eq, String.toList_ofList,
      List.dropWhile_cons_of_pos (by decide)]
  rw [statementOf, trimmed]
  exact if_neg stable.visible

/-- The statement of a body is stable. -/
theorem body_stable {body last : List Char} (read : Body none text body last) :
    statementOf body = [] ∨ ∃ core, Stable core ∧ statementOf body = [core ++ ";"] := by
  by_cases empty : PyText.strip (String.ofList body) = ""
  · exact Or.inl (if_pos empty)
  refine Or.inr ⟨PyText.strip (String.ofList body), ⟨PyText.strip_strip _, empty, ?_⟩, if_neg empty⟩
  intro more
  have core := PyText.strip_eq (String.ofList body)
  rw [String.toList_ofList] at core
  rw [← List.takeWhile_append_dropWhile (p := PyText.isSpace) (l := body)] at read
  obtain ⟨later, read⟩ := read.trimmed fun c member => List.mem_takeWhile_imp member
  have split := (List.rdropWhile_append_rtakeWhile (p := PyText.isSpace)
    (l := body.dropWhile PyText.isSpace)).symm
  rw [← core] at split
  exact (read.again validQuote_none split (fun c member => List.mem_rtakeWhile_imp member) more).1

theorem Bodies.stable (read : Bodies text bodies) :
    ∃ cores : List String, (∀ core ∈ cores, Stable core) ∧
      bodies.flatMap statementOf = cores.map fun core => core ++ ";" := by
  induction read with
  | last read =>
      rcases body_stable read with none | ⟨core, stable, own⟩
      · exact ⟨[], by simp, by simp [none]⟩
      · exact ⟨[core], by simpa using stable, by simp [own]⟩
  | next read further ih =>
      obtain ⟨cores, each, all⟩ := ih
      rcases body_stable read with none | ⟨core, stable, own⟩
      · exact ⟨cores, each, by rw [List.flatMap_cons, none, all, List.nil_append]⟩
      · refine ⟨core :: cores, List.forall_mem_cons.mpr ⟨stable, each⟩, ?_⟩
        rw [List.flatMap_cons, own, all, List.map_cons, List.singleton_append]

/-- Statements as a script, one behind the other. -/
def scriptOf (statements : List String) : String :=
  String.ofList (statements.flatMap fun statement => statement.toList ++ ['\n'])

theorem newline_reads {rest body last : List Char} (read : Body none rest body last) :
    Body none ('\n' :: rest) ('\n' :: body) last :=
  .next (.plain '\n' rest (by simp) (by decide) rfl (by decide)) read

/-- A script of stable statements, with or without a line break in front of it. -/
theorem script_reads {cores : List String} (each : ∀ core ∈ cores, Stable core)
    {lead : List Char} (leads : lead = [] ∨ lead = ['\n']) :
    ∃ bodies,
      Bodies (lead ++ (scriptOf (cores.map fun core => core ++ ";")).toList) bodies ∧
        bodies.flatMap statementOf = cores.map fun core => core ++ ";" := by
  induction cores generalizing lead with
  | nil =>
      have ended : Body none [] [] [] := .stop (Or.inl rfl)
      rcases leads with rfl | rfl
      · exact ⟨[[]], .last ended, rfl⟩
      · exact ⟨[['\n']], .last (newline_reads ended), by decide⟩
  | cons core rest ih =>
      obtain ⟨stable, others⟩ := List.forall_mem_cons.mp each
      obtain ⟨bodies, further, all⟩ := ih others (Or.inr rfl)
      have whole : lead ++ (scriptOf ((core :: rest).map fun core => core ++ ";")).toList =
          lead ++ (core.toList ++ ';' :: (['\n'] ++
            (scriptOf (rest.map fun core => core ++ ";")).toList)) := by
        simp [scriptOf]
      rw [whole]
      have read := stable.reads (['\n'] ++ (scriptOf (rest.map fun core => core ++ ";")).toList)
      rcases leads with rfl | rfl
      · refine ⟨core.toList :: bodies, .next read further, ?_⟩
        rw [List.flatMap_cons, statementOf_stable stable, all, List.map_cons,
          List.singleton_append]
      · refine ⟨('\n' :: core.toList) :: bodies, .next (newline_reads read) further, ?_⟩
        rw [List.flatMap_cons, statementOf_newline stable, all, List.map_cons,
          List.singleton_append]

theorem Bodies.whole (read : Bodies text bodies) (uncommented : ¬['-', '-'] <:+: text) :
    text = [';'].intercalate bodies := by
  induction read with
  | last read =>
      rw [read.whole uncommented, List.append_nil]
      simp
  | @next text body more bodies read further ih =>
      have own := read.whole uncommented
      have later : ¬['-', '-'] <:+: more := by
        intro found
        rw [own] at uncommented
        exact uncommented (List.infix_append_of_infix_right (List.infix_cons found))
      rw [own, ih later]
      cases further <;> simp

end Bodies

/-! ## A script -/

theorem sampleScript_split :
    sqlStatements "  SELECT 'a;''b' ;\nDO $x$ ';$$ ; $x$; ; DROP TABLE c" =
      .ok ["SELECT 'a;''b';", "DO $x$ ';$$ ; $x$;", "DROP TABLE c;"] := by
  decide +kernel

end LotusIdea
