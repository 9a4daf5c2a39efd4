import LotusIdea.Foundation.CanonicalJson

/-!
# Canonical JSON text determines its values

The text of a value is never continued within another text: a value is read off
the front of every text that goes on with a separator or a bracket.  Equal texts
of objects therefore have, field by field, equal texts.
-/

set_option autoImplicit false

namespace Json

/-- What may follow a value: nothing, a separator or a closing bracket. -/
def Closes (rest : List Char) : Prop :=
  ∀ c, rest.head? = some c → c = ',' ∨ c = ']' ∨ c = '}'

theorem closes_nil : Closes [] := by
  intro c head
  cases head

theorem closes_cons {c : Char} (closing : c = ',' ∨ c = ']' ∨ c = '}') (rest : List Char) :
    Closes (c :: rest) := by
  intro d head
  cases head
  exact closing

/-- The first text ends where the second does, whatever follows either. -/
def EndsWith (text other : List Char) : Prop :=
  ∀ rest rest', Closes rest → Closes rest' → text ++ rest = other ++ rest' →
    text = other ∧ rest = rest'

/-! ## Numerals -/

def isNumeral (c : Char) : Bool := c.isDigit || c == '-'

theorem toString_numeral (n : Int) : ∀ c ∈ (toString n).toList, isNumeral c = true := by
  have natural : ∀ m : Nat, ∀ c ∈ m.repr.toList, isNumeral c = true := by
    intro m c member
    rw [Nat.toList_repr] at member
    simp [isNumeral, Nat.isDigit_of_mem_toDigits (by decide) (by decide) member]
  cases n with
  | ofNat m => exact natural m
  | negSucc m =>
      intro c member
      have shape : (toString (Int.negSucc m)).toList = '-' :: (Nat.repr (m + 1)).toList := by
        change ("-" ++ Nat.repr (m + 1)).toList = _
        rw [String.toList_append]
        rfl
      rw [shape, List.mem_cons] at member
      rcases member with rfl | digit
      · rfl
      · exact natural _ c digit

theorem toString_ne_nil (n : Int) : (toString n).toList ≠ [] := by
  cases n with
  | ofNat m =>
      change m.repr.toList ≠ []
      rw [Nat.toList_repr]
      exact Nat.toDigits_ne_nil
  | negSucc m =>
      change ("-" ++ Nat.repr (m + 1)).toList ≠ []
      rw [String.toList_append]
      simp

theorem takeWhile_numeral {digits rest : List Char} (numeral : ∀ c ∈ digits, isNumeral c = true)
    (closes : Closes rest) : (digits ++ rest).takeWhile isNumeral = digits := by
  rw [List.takeWhile_append_of_pos numeral]
  cases rest with
  | nil => simp
  | cons c further =>
      have stops : isNumeral c = false := by
        rcases closes c rfl with rfl | rfl | rfl
        · decide
        · decide
        · decide
      simp [stops]

theorem numeral_ends (m n : Int) : EndsWith (toString m).toList (toString n).toList := by
  intro rest rest' closes closes' same
  have read := congrArg (List.takeWhile isNumeral) same
  rw [takeWhile_numeral (toString_numeral m) closes,
    takeWhile_numeral (toString_numeral n) closes'] at read
  rw [read] at same ⊢
  exact ⟨rfl, List.append_cancel_left same⟩

theorem toString_injective {m n : Int} (same : (toString m).toList = (toString n).toList) :
    m = n := by
  have digits : ∀ k : Nat, '-' ∉ k.repr.toList := by
    intro k member
    rw [Nat.toList_repr] at member
    exact absurd (Nat.isDigit_of_mem_toDigits (by decide) (by decide) member) (by decide)
  have negative : ∀ k : Nat, (toString (Int.negSucc k)).toList = '-' :: (k + 1).repr.toList := by
    intro k
    change ("-" ++ Nat.repr (k + 1)).toList = _
    rw [String.toList_append]
    rfl
  have natural : ∀ j k : Nat, j.repr.toList = k.repr.toList → j = k := by
    intro j k equal
    simp only [Nat.toList_repr] at equal
    rw [← Nat.ofDigitChars_ten_toDigits (n := j), equal, Nat.ofDigitChars_ten_toDigits]
  cases m with
  | ofNat j =>
      cases n with
      | ofNat k => rw [natural j k same]
      | negSucc k =>
          rw [negative] at same
          have member : '-' ∈ j.repr.toList := by
            change '-' ∈ (toString (Int.ofNat j)).toList
            rw [same]
            exact List.mem_cons_self
          exact absurd member (digits j)
  | negSucc j =>
      cases n with
      | ofNat k =>
          rw [negative] at same
          have member : '-' ∈ k.repr.toList := by
            change '-' ∈ (toString (Int.ofNat k)).toList
            rw [← same]
            exact List.mem_cons_self
          exact absurd member (digits k)
      | negSucc k =>
          rw [negative, negative, List.cons.injEq] at same
          have equal := natural _ _ same.2
          rw [Nat.succ.inj equal]

/-! ## Which kind of value a text starts -/

def kind : Json → Nat
  | .null => 0
  | .bool true => 1
  | .bool false => 2
  | .int _ => 3
  | .str _ => 4
  | .arr _ => 5
  | .obj _ => 6

def startKind (c : Char) : Nat :=
  if c = 'n' then 0 else if c = 't' then 1 else if c = 'f' then 2 else if c = '"' then 4
  else if c = '[' then 5 else if c = '{' then 6 else 3

theorem startKind_numeral {c : Char} (numeral : isNumeral c = true) : startKind c = 3 := by
  have others : c ≠ 'n' ∧ c ≠ 't' ∧ c ≠ 'f' ∧ c ≠ '"' ∧ c ≠ '[' ∧ c ≠ '{' := by
    refine ⟨?_, ?_, ?_, ?_, ?_, ?_⟩ <;>
    · rintro rfl
      exact absurd numeral (by decide)
  simp [startKind, others.1, others.2.1, others.2.2.1, others.2.2.2.1, others.2.2.2.2.1,
    others.2.2.2.2.2]

/-- A value starts with a character of its kind, which is no closing bracket. -/
theorem dump_starts (value : Json) :
    ∃ c rest, dump value = c :: rest ∧ startKind c = value.kind ∧ c ≠ ']' ∧ c ≠ '}' := by
  have bracket : isNumeral ']' = false ∧ isNumeral '}' = false := by decide
  cases value with
  | null => exact ⟨_, _, rfl, rfl, by decide, by decide⟩
  | bool b =>
      cases b with
      | true => exact ⟨_, _, rfl, rfl, by decide, by decide⟩
      | false => exact ⟨_, _, rfl, rfl, by decide, by decide⟩
  | int n =>
      cases text : (toString n).toList with
      | nil => exact absurd text (toString_ne_nil n)
      | cons c rest =>
          have numeral := toString_numeral n c (by rw [text]; exact List.mem_cons_self)
          refine ⟨c, rest, by rw [dump, text], startKind_numeral numeral, ?_, ?_⟩
          · rintro rfl
            rw [bracket.1] at numeral
            cases numeral
          · rintro rfl
            rw [bracket.2] at numeral
            cases numeral
  | str s => exact ⟨_, _, rfl, rfl, by decide, by decide⟩
  | arr items => exact ⟨_, _, rfl, rfl, by decide, by decide⟩
  | obj fields => exact ⟨_, _, rfl, rfl, by decide, by decide⟩

theorem kind_eq {a b : Json} {rest rest' : List Char} (same : dump a ++ rest = dump b ++ rest') :
    a.kind = b.kind := by
  obtain ⟨c, text, starts, isKind, _⟩ := dump_starts a
  obtain ⟨d, other, starts', isKind', _⟩ := dump_starts b
  rw [starts, starts', List.cons_append, List.cons_append, List.cons.injEq] at same
  rw [← isKind, ← isKind', same.1]

/-! ## Lists of values -/

theorem joined_cons (part : List Char) (parts : List (List Char)) :
    joined (part :: parts) = part ++ (if parts = [] then [] else ',' :: joined parts) := by
  cases parts with
  | nil => simp [joined]
  | cons next rest => simp [joined]

/-- Joined parts and their closing bracket determine the parts. -/
theorem joined_ends {c : Char} (closing : c = ']' ∨ c = '}') {xs ys : List (List Char)}
    (ends : ∀ x ∈ xs, ∀ y ∈ ys, EndsWith x y)
    (opens : ∀ x, x ∈ xs ∨ x ∈ ys → ∃ d text, x = d :: text ∧ d ≠ c) {rest rest' : List Char}
    (same : joined xs ++ c :: rest = joined ys ++ c :: rest') : xs = ys ∧ rest = rest' := by
  have bracket : c = ',' ∨ c = ']' ∨ c = '}' := Or.inr closing
  have notComma : c ≠ ',' := by
    rcases closing with rfl | rfl
    · decide
    · decide
  have follows : ∀ (parts : List (List Char)) (further : List Char),
      Closes ((if parts = [] then [] else ',' :: joined parts) ++ c :: further) := by
    intro parts further
    split
    · exact closes_cons bracket further
    · exact closes_cons (Or.inl rfl) _
  induction xs generalizing ys with
  | nil =>
      cases ys with
      | nil => exact ⟨rfl, (List.cons.inj same).2⟩
      | cons y ys =>
          obtain ⟨d, text, rfl, differs⟩ := opens y (Or.inr List.mem_cons_self)
          rw [joined_cons] at same
          exact absurd (List.cons.inj same).1.symm differs
  | cons x xs ih =>
      cases ys with
      | nil =>
          obtain ⟨d, text, rfl, differs⟩ := opens x (Or.inl List.mem_cons_self)
          rw [joined_cons] at same
          exact absurd (List.cons.inj same).1 differs
      | cons y ys =>
          rw [joined_cons, joined_cons, List.append_assoc, List.append_assoc] at same
          obtain ⟨first, further⟩ := ends x List.mem_cons_self y List.mem_cons_self _ _
            (follows xs rest) (follows ys rest') same
          have others : xs = ys ∧ rest = rest' := by
            by_cases left : xs = [] <;> by_cases right : ys = []
            · rw [if_pos left, if_pos right] at further
              exact ⟨by rw [left, right], (List.cons.inj further).2⟩
            · rw [if_pos left, if_neg right] at further
              exact absurd (List.cons.inj further).1 notComma
            · rw [if_neg left, if_pos right] at further
              exact absurd (List.cons.inj further).1.symm notComma
            · rw [if_neg left, if_neg right] at further
              refine ih (fun x' held y' held' => ends x' (List.mem_cons_of_mem _ held) y'
                (List.mem_cons_of_mem _ held')) ?_ (List.cons.inj further).2
              intro part member
              exact opens part (member.imp (List.mem_cons_of_mem _) (List.mem_cons_of_mem _))
          exact ⟨by rw [first, others.1], others.2⟩

theorem mem_dumpItems {items : List Json} {text : List Char} :
    text ∈ dumpItems items ↔ ∃ value ∈ items, text = dump value := by
  induction items with
  | nil => simp [dumpItems]
  | cons item rest ih => simp [dumpItems, ih]

theorem mem_dumpFields {fields : List (String × Json)} {field : String × List Char} :
    field ∈ dumpFields fields ↔ ∃ key value, (key, value) ∈ fields ∧ field = (key, dump value) := by
  induction fields with
  | nil => simp [dumpFields]
  | cons head rest ih =>
      obtain ⟨key, value⟩ := head
      simp only [dumpFields, List.mem_cons, ih, Prod.mk.injEq]
      constructor
      · rintro (rfl | ⟨k, v, held, rfl⟩)
        · exact ⟨key, value, Or.inl ⟨rfl, rfl⟩, rfl⟩
        · exact ⟨k, v, Or.inr held, rfl⟩
      · rintro ⟨k, v, ⟨rfl, rfl⟩ | held, rfl⟩
        · exact Or.inl rfl
        · exact Or.inr ⟨k, v, held, rfl⟩

/-! ## Values -/

/-- The text of one field. -/
def fieldText (field : String × List Char) : List Char := quote field.1 ++ ':' :: field.2

theorem fieldText_ends {key key' : String} {text text' : List Char} (ends : EndsWith text text') :
    EndsWith (fieldText (key, text)) (fieldText (key', text')) := by
  intro rest rest' closes closes' same
  simp only [fieldText, List.append_assoc, List.cons_append] at same
  obtain ⟨sameKey, further⟩ := quote_append_injective same
  obtain ⟨sameText, sameRest⟩ := ends rest rest' closes closes' (List.cons.inj further).2
  exact ⟨by rw [fieldText, fieldText, sameKey, sameText], sameRest⟩

/-- The text of an array or object is read when the texts of its parts are. -/
theorem bracketed_ends {opening closing : Char} (close : closing = ']' ∨ closing = '}')
    {xs ys : List (List Char)} (ends : ∀ x ∈ xs, ∀ y ∈ ys, EndsWith x y)
    (opens : ∀ x, x ∈ xs ∨ x ∈ ys → ∃ d text, x = d :: text ∧ d ≠ closing) :
    EndsWith (opening :: joined xs ++ [closing]) (opening :: joined ys ++ [closing]) := by
  intro rest rest' _ _ same
  simp only [List.cons_append, List.append_assoc, List.nil_append, List.cons.injEq, true_and]
    at same
  obtain ⟨parts, further⟩ := joined_ends close ends opens same
  exact ⟨by rw [parts], further⟩

mutual

theorem dump_ends : ∀ a b : Json, EndsWith (dump a) (dump b)
  | .null, b => by
      intro rest rest' _ _ same
      have sameKind := kind_eq same
      cases b with
      | null => exact ⟨rfl, List.append_cancel_left same⟩
      | bool v => cases v <;> cases sameKind
      | int | str | arr | obj => cases sameKind
  | .bool v, b => by
      intro rest rest' _ _ same
      have sameKind := kind_eq same
      cases b with
      | bool w =>
          cases v <;> cases w
          · exact ⟨rfl, List.append_cancel_left same⟩
          · cases sameKind
          · cases sameKind
          · exact ⟨rfl, List.append_cancel_left same⟩
      | null | int | str | arr | obj => cases v <;> cases sameKind
  | .int n, b => by
      intro rest rest' closes closes' same
      have sameKind := kind_eq same
      cases b with
      | int m => exact numeral_ends n m rest rest' closes closes' same
      | bool v => cases v <;> cases sameKind
      | null | str | arr | obj => cases sameKind
  | .str s, b => by
      intro rest rest' _ _ same
      have sameKind := kind_eq same
      cases b with
      | str t =>
          obtain ⟨text, further⟩ := quote_append_injective same
          exact ⟨by rw [text], further⟩
      | bool v => cases v <;> cases sameKind
      | null | int | arr | obj => cases sameKind
  | .arr items, b => by
      intro rest rest' closes closes' same
      have sameKind := kind_eq same
      cases b with
      | arr others =>
          refine bracketed_ends (Or.inl rfl) ?_ ?_ rest rest' closes closes' same
          · intro x held y held'
            obtain ⟨value, _, rfl⟩ := mem_dumpItems.mp held'
            exact dumpItems_end items x held value
          · intro x member
            have isText : ∃ value, x = dump value := by
              rcases member with held | held
              · obtain ⟨value, _, text⟩ := mem_dumpItems.mp held
                exact ⟨value, text⟩
              · obtain ⟨value, _, text⟩ := mem_dumpItems.mp held
                exact ⟨value, text⟩
            obtain ⟨value, rfl⟩ := isText
            obtain ⟨c, text, starts, _, notBracket, _⟩ := dump_starts value
            exact ⟨c, text, starts, notBracket⟩
      | bool v => cases v <;> cases sameKind
      | null | int | str | obj => cases sameKind
  | .obj fields, b => by
      intro rest rest' closes closes' same
      have sameKind := kind_eq same
      cases b with
      | obj others =>
          refine bracketed_ends (Or.inr rfl) ?_ ?_ rest rest' closes closes' same
          · intro x held y held'
            obtain ⟨⟨key, text⟩, member, rfl⟩ := List.mem_map.mp held
            obtain ⟨⟨key', text'⟩, member', rfl⟩ := List.mem_map.mp held'
            obtain ⟨_, value, _, named⟩ :=
              mem_dumpFields.mp ((List.mem_insertionSort _).mp member')
            cases named
            exact fieldText_ends
              (dumpFields_end fields (key, text) ((List.mem_insertionSort _).mp member) value)
          · intro x member
            have isText : ∃ field : String × List Char, x = fieldText field := by
              rcases member with held | held
              · obtain ⟨field, _, text⟩ := List.mem_map.mp held
                exact ⟨field, text.symm⟩
              · obtain ⟨field, _, text⟩ := List.mem_map.mp held
                exact ⟨field, text.symm⟩
            obtain ⟨field, rfl⟩ := isText
            exact ⟨_, _, rfl, by decide⟩
      | bool v => cases v <;> cases sameKind
      | null | int | str | arr => cases sameKind

theorem dumpItems_end : ∀ (items : List Json), ∀ x ∈ dumpItems items, ∀ value,
    EndsWith x (dump value)
  | [] => by
      intro x held
      cases held
  | item :: rest => by
      intro x held value
      rcases List.mem_cons.mp held with rfl | later
      · exact dump_ends item value
      · exact dumpItems_end rest x later value

theorem dumpFields_end : ∀ (fields : List (String × Json)), ∀ field ∈ dumpFields fields, ∀ value,
    EndsWith field.2 (dump value)
  | [] => by
      intro field held
      cases held
  | (key, item) :: rest => by
      intro field held value
      rcases List.mem_cons.mp held with rfl | later
      · exact dump_ends item value
      · exact dumpFields_end rest field later value

end

/-! ## What equal texts say -/

theorem dump_eq_of_dumps {a b : Json} (same : dumps a = dumps b) : dump a = dump b :=
  String.ofList_injective same

theorem kind_eq_of_dump {a b : Json} (same : dump a = dump b) : a.kind = b.kind :=
  kind_eq (congrArg (· ++ ([] : List Char)) same)

theorem str_eq {s t : String} (same : dump (.str s) = dump (.str t)) : s = t :=
  (quote_append_injective (congrArg (· ++ ([] : List Char)) same)).1

theorem int_eq {m n : Int} (same : dump (.int m) = dump (.int n)) : m = n :=
  toString_injective same

theorem bool_eq {v w : Bool} (same : dump (.bool v) = dump (.bool w)) : v = w := by
  have kinds := kind_eq_of_dump same
  cases v <;> cases w
  · rfl
  · cases kinds
  · cases kinds
  · rfl

theorem arr_eq {items others : List Json} (same : dump (.arr items) = dump (.arr others)) :
    dumpItems items = dumpItems others := by
  have parts : joined (dumpItems items) ++ ']' :: [] = joined (dumpItems others) ++ ']' :: [] := by
    simpa [dump] using same
  refine (joined_ends (Or.inl rfl) ?_ ?_ parts).1
  · intro x held y held'
    obtain ⟨value, _, rfl⟩ := mem_dumpItems.mp held'
    exact dumpItems_end items x held value
  · intro x member
    rcases member with held | held
    all_goals
      obtain ⟨value, _, rfl⟩ := mem_dumpItems.mp held
      obtain ⟨c, text, starts, _, notBracket, _⟩ := dump_starts value
      exact ⟨c, text, starts, notBracket⟩

theorem fieldText_injective : Function.Injective fieldText := by
  rintro ⟨key, text⟩ ⟨key', text'⟩ same
  obtain ⟨sameKey, further⟩ := quote_append_injective same
  exact Prod.ext sameKey (List.cons.inj further).2

theorem mem_sortFields {fields : List (String × Json)} {field : String × List Char} :
    field ∈ sortFields (dumpFields fields) ↔
      ∃ key value, (key, value) ∈ fields ∧ field = (key, dump value) := by
  rw [sortFields, List.mem_insertionSort, mem_dumpFields]

theorem obj_eq {fields others : List (String × Json)}
    (same : dump (.obj fields) = dump (.obj others)) :
    sortFields (dumpFields fields) = sortFields (dumpFields others) := by
  have parts : joined ((sortFields (dumpFields fields)).map fieldText) ++ '}' :: [] =
      joined ((sortFields (dumpFields others)).map fieldText) ++ '}' :: [] := by
    have whole := same
    simp only [dump, List.cons_append, List.cons.injEq, true_and] at whole
    exact whole
  refine List.map_injective_iff.mpr fieldText_injective (joined_ends (Or.inr rfl) ?_ ?_ parts).1
  · intro x held y held'
    obtain ⟨⟨key, text⟩, member, rfl⟩ := List.mem_map.mp held
    obtain ⟨⟨key', text'⟩, member', rfl⟩ := List.mem_map.mp held'
    obtain ⟨_, value, mem, named⟩ := mem_sortFields.mp member
    obtain ⟨_, value', mem', named'⟩ := mem_sortFields.mp member'
    cases named
    cases named'
    exact fieldText_ends (dump_ends value value')
  · intro x member
    rcases member with held | held
    all_goals
      obtain ⟨field, _, rfl⟩ := List.mem_map.mp held
      exact ⟨_, _, rfl, by decide⟩

/-- Objects with one text hold, under every key, values with one text. -/
theorem field_eq {fields others : List (String × Json)}
    (same : dump (.obj fields) = dump (.obj others)) {key : String} {value : Json}
    (held : (key, value) ∈ fields) :
    ∃ other, (key, other) ∈ others ∧ dump value = dump other := by
  have member : (key, dump value) ∈ sortFields (dumpFields fields) :=
    mem_sortFields.mpr ⟨key, value, held, rfl⟩
  rw [obj_eq same, mem_sortFields] at member
  obtain ⟨_, other, there, named⟩ := member
  obtain ⟨rfl, texts⟩ := Prod.mk.inj named
  exact ⟨other, there, texts⟩

theorem dumpItems_eq (items : List Json) : dumpItems items = items.map dump := by
  induction items with
  | nil => rfl
  | cons item rest ih => rw [dumpItems, ih, List.map_cons]

/-- Arrays with one text hold, at every place, items with one text. -/
theorem items_eq {α : Type} {f : α → Json} {xs ys : List α}
    (same : dump (.arr (xs.map f)) = dump (.arr (ys.map f))) :
    xs.map (fun x => dump (f x)) = ys.map (fun y => dump (f y)) := by
  have items := arr_eq same
  rw [dumpItems_eq, dumpItems_eq, List.map_map, List.map_map] at items
  exact items

/-- Objects with one text and the same keys hold, at every place, values with one
text. -/
theorem values_eq {fields others : List (String × Json)}
    (same : dump (.obj fields) = dump (.obj others))
    (keys : fields.map Prod.fst = others.map Prod.fst) (distinct : (others.map Prod.fst).Nodup) :
    fields.map (fun field => dump field.2) = others.map (fun field => dump field.2) := by
  have sizes : fields.length = others.length := by simpa using congrArg List.length keys
  refine List.ext_getElem (by simpa using sizes) ?_
  intro index inside inside'
  simp only [List.length_map] at inside inside'
  have key : fields[index].1 = others[index].1 := by
    have both := List.getElem_of_eq keys (by simpa using inside)
    simpa using both
  obtain ⟨other, there, texts⟩ := field_eq same (List.getElem_mem inside)
  have own : (fields[index].1, other) = others[index] :=
    List.inj_on_of_nodup_map distinct there (List.getElem_mem inside') key
  simp only [List.getElem_map]
  rw [← own]
  exact texts

/-- Equal arrays of texts hold the same texts. -/
theorem strings_eq {texts others : List String}
    (same : dump (.arr (texts.map .str)) = dump (.arr (others.map .str))) : texts = others := by
  have items := items_eq same
  exact List.map_injective_iff.mpr (fun s t equal => str_eq equal) items

end Json
