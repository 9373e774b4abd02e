import ResourceMeter.Proofs.Binary64Parts
import ResourceMeter.Proofs.Json.Grammar

/-!
# Written values are read as they are

`Json.tokens` are the tokens of a value, and `Json.outline` is what a reader sees of it; neither
depends on how the text is laid out. A text of the value is split into these tokens
(`Token.ofText_text`), which spell the outline (`spelling_outline`). So the compact and the pretty
text of a value hold exactly that value, and nothing follows it (`Document.ofText_compact`,
`Document.ofText_pretty`).
-/

namespace ResourceMeter.Json

open Token

/-! ## Tokens and outline of a value -/

/-- The token of a binary64 number. -/
def floatToken (x : Float) : Token :=
  ((next? (floatText x).toList).map Prod.fst).getD .bad

/-- The token of a value that holds no other. -/
def leafToken : Json → Token
  | .null => .null
  | .bool b => .bool b
  | .count n => .number (countNumeral n)
  | .float x => if x.isFinite then floatToken x else .null
  | .string s => .string s
  | .list _ => .bad
  | .object _ => .bad

mutual

/-- The tokens of a value. -/
def tokens : Json → List Token
  | .list [] => [.openList, .closeList]
  | .list (item :: items) => .openList :: (tokens item ++ (itemsTokens items ++ [.closeList]))
  | .object [] => [.openObject, .closeObject]
  | .object ((name, value) :: members) =>
    .openObject :: .string name :: .colon ::
      (tokens value ++ (membersTokens members ++ [.closeObject]))
  | .null => [leafToken .null]
  | .bool b => [leafToken (.bool b)]
  | .count n => [leafToken (.count n)]
  | .float x => [leafToken (.float x)]
  | .string s => [leafToken (.string s)]

/-- The tokens of the items of a list after the first. -/
def itemsTokens : List Json → List Token
  | [] => []
  | item :: items => .comma :: (tokens item ++ itemsTokens items)

/-- The tokens of the members of an object after the first. -/
def membersTokens : List (String × Json) → List Token
  | [] => []
  | (name, value) :: members =>
    .comma :: .string name :: .colon :: (tokens value ++ membersTokens members)

end

mutual

/-- What a reader sees of a value. -/
def outline : Json → Outline
  | .list items => .list (itemOutlines items)
  | .object members => .object (memberOutlines members)
  | .null => .leaf (leafToken .null)
  | .bool b => .leaf (leafToken (.bool b))
  | .count n => .leaf (leafToken (.count n))
  | .float x => .leaf (leafToken (.float x))
  | .string s => .leaf (leafToken (.string s))

/-- What a reader sees of the items of a list. -/
def itemOutlines : List Json → List Outline
  | [] => []
  | item :: items => outline item :: itemOutlines items

/-- What a reader sees of the members of an object. -/
def memberOutlines : List (String × Json) → List (Token × Outline)
  | [] => []
  | (name, value) :: members => (.string name, outline value) :: memberOutlines members

end

/-- The outlines of the items, one by one. -/
theorem itemOutlines_eq (items : List Json) : itemOutlines items = items.map outline := by
  induction items with
  | nil => rfl
  | cons item items ih => rw [itemOutlines, ih, List.map_cons]

/-- The outlines of the members, one by one. -/
theorem memberOutlines_eq (members : List (String × Json)) :
    memberOutlines members = members.map fun (name, value) => (.string name, outline value) := by
  induction members with
  | nil => rfl
  | cons member members ih =>
    obtain ⟨name, value⟩ := member
    rw [memberOutlines, ih, List.map_cons]

/-! ## From texts to tokens -/

namespace Token

/-- The text of a finite number is a number. -/
theorem exists_numberText_floatText {x : Float} (hx : x.isFinite = true) :
    ∃ n, NumberText (floatText x).toList n := by
  obtain ⟨negative, significand, exponent, hparts⟩ := Binary64.exists_parts_eq_finite hx
  unfold floatText Decimal.shortestText
  rw [hparts]
  exact numberText_layout _ _ _

/-- The token of a finite number is the number that its text writes. -/
theorem floatToken_eq {x : Float} {n : Decimal.Numeral} (h : NumberText (floatText x).toList n) :
    floatToken x = .number n := by
  have hread := next?_append h .nil
  rw [List.append_nil] at hread
  unfold floatToken
  rw [hread]
  rfl

/-- A finite number is read as its token. -/
theorem next?_floatText {x : Float} (hx : x.isFinite = true) {rest : List Char}
    (hrest : EndsNumber rest) :
    next? ((floatText x).toList ++ rest) = some (floatToken x, rest) := by
  obtain ⟨n, hn⟩ := exists_numberText_floatText hx
  rw [floatToken_eq hn, next?_append hn hrest]

/-- A binary64 number is written as a number or, if it is not finite, as nothing. -/
theorem leafToken_float (x : Float) :
    (∃ n, leafToken (.float x) = .number n) ∨ leafToken (.float x) = .null := by
  unfold leafToken
  dsimp only
  by_cases hx : x.isFinite = true
  · obtain ⟨n, hn⟩ := exists_numberText_floatText hx
    rw [if_pos hx]
    exact .inl ⟨n, floatToken_eq hn⟩
  · rw [if_neg hx]
    exact .inr rfl

end Token

/-- The spacing consists of blanks. -/
structure Spacing.Blank (spacing : Spacing) : Prop where
  line : ∀ level, ∀ c ∈ spacing.line level, isBlank c = true
  afterColon : ∀ c ∈ spacing.afterColon, isBlank c = true

/-- There are no blanks in a compact text. -/
theorem Spacing.blank_compact : Spacing.compact.Blank :=
  ⟨fun _ _ => nofun, nofun⟩

/-- Lines are broken and indented by blanks. -/
theorem Spacing.blank_pretty : Spacing.pretty.Blank := by
  refine ⟨fun level c hc => ?_, fun c hc => ?_⟩
  · rcases List.mem_cons.1 hc with rfl | hc
    · decide
    · rw [List.eq_of_mem_replicate hc]
      decide
  · rw [List.mem_singleton.1 hc]
    decide

namespace Token

variable {spacing : Spacing} (hspacing : spacing.Blank)

include hspacing

/-- What stands between the last item or member and the end of its container. -/
theorem EndsNumber.close {c : Char} (h : c = ',' ∨ c = ']' ∨ c = '\x7d') (level : Nat)
    (rest : List Char) : EndsNumber (spacing.line level ++ (c :: rest)) :=
  .blanks (hspacing.line level) (.cons h rest)

/-- The name of a member is read as a string and a colon. -/
theorem ofText_name (name : String) (rest : List Char) :
    ofText (stringText name ++ (':' :: (spacing.afterColon ++ rest))) =
      .string name :: .colon :: ofText rest := by
  rw [ofText_of_next? (next?_stringText name _), ofText_of_next? rfl,
    ofText_blanks hspacing.afterColon]

mutual

/-- The text of a value is split into its tokens. -/
theorem ofText_text : ∀ (value : Json) (level : Nat) {rest : List Char}, EndsNumber rest →
    ofText (text spacing level value ++ rest) = tokens value ++ ofText rest
  | .null, level, rest, _ => by
    rw [text, tokens]
    exact ofText_of_next? rfl
  | .bool true, level, rest, _ => by
    rw [text, tokens]
    exact ofText_of_next? rfl
  | .bool false, level, rest, _ => by
    rw [text, tokens]
    exact ofText_of_next? rfl
  | .count n, level, rest, hrest => by
    rw [text, tokens]
    exact ofText_of_next? (next?_append (numberText_digits n) hrest)
  | .float x, level, rest, hrest => by
    rw [text, tokens]
    refine ofText_of_next? ?_
    unfold leafText leafToken
    dsimp only
    by_cases hx : x.isFinite = true
    · rw [if_pos hx, if_pos hx]
      exact next?_floatText hx hrest
    · rw [if_neg hx, if_neg hx]
      rfl
  | .string s, level, rest, _ => by
    rw [text, tokens]
    exact ofText_of_next? (next?_stringText s rest)
  | .list [], level, rest, _ => by
    rw [text, tokens]
    show ofText ('[' :: ']' :: rest) = _
    rw [ofText_of_next? rfl, ofText_of_next? rfl]
    rfl
  | .list (item :: items), level, rest, _ => by
    have hend := EndsNumber.close hspacing (.inr (.inl rfl)) level rest
    have hitems : EndsNumber (itemsText spacing (level + 1) items ++
        (spacing.line level ++ (']' :: rest))) := by
      cases items with
      | nil => exact hend
      | cons _ _ => exact .cons (.inl rfl) _
    rw [text, tokens]
    simp only [List.cons_append, List.append_assoc, List.nil_append]
    rw [ofText_of_next? rfl, ofText_blanks (hspacing.line _),
      ofText_text item (level + 1) hitems, ofText_itemsText items (level + 1) hend,
      ofText_blanks (hspacing.line _), ofText_of_next? rfl]
  | .object [], level, rest, _ => by
    rw [text, tokens]
    show ofText ('\x7b' :: '\x7d' :: rest) = _
    rw [ofText_of_next? rfl, ofText_of_next? rfl]
    rfl
  | .object ((name, value) :: members), level, rest, _ => by
    have hend := EndsNumber.close hspacing (.inr (.inr rfl)) level rest
    have hmembers : EndsNumber (membersText spacing (level + 1) members ++
        (spacing.line level ++ ('\x7d' :: rest))) := by
      cases members with
      | nil => exact hend
      | cons _ _ => exact .cons (.inl rfl) _
    rw [text, tokens]
    simp only [List.cons_append, List.append_assoc, List.nil_append]
    rw [ofText_of_next? rfl, ofText_blanks (hspacing.line _),
      ofText_name hspacing, ofText_text value (level + 1) hmembers,
      ofText_membersText members (level + 1) hend,
      ofText_blanks (hspacing.line _), ofText_of_next? rfl]

/-- The text of the items after the first is split into their tokens. -/
theorem ofText_itemsText : ∀ (items : List Json) (level : Nat) {rest : List Char},
    EndsNumber rest →
    ofText (itemsText spacing level items ++ rest) = itemsTokens items ++ ofText rest
  | [], level, rest, _ => rfl
  | item :: items, level, rest, hrest => by
    have hitems : EndsNumber (itemsText spacing level items ++ rest) := by
      cases items with
      | nil => exact hrest
      | cons _ _ => exact .cons (.inl rfl) _
    rw [itemsText, itemsTokens]
    simp only [List.cons_append, List.append_assoc]
    rw [ofText_of_next? rfl, ofText_blanks (hspacing.line _),
      ofText_text item level hitems, ofText_itemsText items level hrest]

/-- The text of the members after the first is split into their tokens. -/
theorem ofText_membersText : ∀ (members : List (String × Json)) (level : Nat)
    {rest : List Char}, EndsNumber rest →
    ofText (membersText spacing level members ++ rest) = membersTokens members ++ ofText rest
  | [], level, rest, _ => rfl
  | (name, value) :: members, level, rest, hrest => by
    have hmembers : EndsNumber (membersText spacing level members ++ rest) := by
      cases members with
      | nil => exact hrest
      | cons _ _ => exact .cons (.inl rfl) _
    rw [membersText, membersTokens]
    simp only [List.cons_append, List.append_assoc]
    rw [ofText_of_next? rfl, ofText_blanks (hspacing.line _),
      ofText_name hspacing, ofText_text value level hmembers,
      ofText_membersText members level hrest]

end

end Token

/-! ## From tokens to outlines -/

mutual

/-- What is written for a value is a value. -/
theorem isValue_outline : ∀ value : Json, (outline value).IsValue
  | .null => by
    rw [outline]
    exact .leaf .null
  | .bool b => by
    rw [outline]
    exact .leaf (.bool b)
  | .count n => by
    rw [outline]
    exact .leaf (.number _)
  | .float x => by
    rw [outline]
    obtain ⟨n, hn⟩ | hnull := leafToken_float x
    · rw [hn]
      exact .leaf (.number n)
    · rw [hnull]
      exact .leaf .null
  | .string s => by
    rw [outline]
    exact .leaf (.string s)
  | .list items => by
    rw [outline]
    exact .list (isValue_itemOutlines items)
  | .object members => by
    rw [outline]
    refine .object (fun member hmember => ?_) (isValue_memberOutlines members)
    rw [memberOutlines_eq] at hmember
    obtain ⟨⟨name, value⟩, -, rfl⟩ := List.mem_map.1 hmember
    exact .string name

/-- What is written for items are values. -/
theorem isValue_itemOutlines : ∀ items : List Json, ∀ item ∈ itemOutlines items, item.IsValue
  | [] => List.forall_mem_nil _
  | item :: items => List.forall_mem_cons.2 ⟨isValue_outline item, isValue_itemOutlines items⟩

/-- What is written for members are values. -/
theorem isValue_memberOutlines :
    ∀ members : List (String × Json), ∀ member ∈ memberOutlines members, member.2.IsValue
  | [] => List.forall_mem_nil _
  | (_, value) :: members =>
    List.forall_mem_cons.2 ⟨isValue_outline value, isValue_memberOutlines members⟩

end

mutual

/-- The tokens of a value spell what a reader sees of it. -/
theorem spelling_outline : ∀ value : Json, (outline value).spelling = tokens value
  | .null => by rw [outline, tokens, Outline.spelling]
  | .bool b => by rw [outline, tokens, Outline.spelling]
  | .count n => by rw [outline, tokens, Outline.spelling]
  | .float x => by rw [outline, tokens, Outline.spelling]
  | .string s => by rw [outline, tokens, Outline.spelling]
  | .list [] => by
    rw [outline, tokens]
    rfl
  | .list (item :: items) => by
    rw [outline, tokens, Outline.spelling, itemOutlines, Outline.itemsSpelling, List.tail_cons,
      spelling_outline item, itemsSpelling_itemOutlines items, List.append_assoc]
  | .object [] => by
    rw [outline, tokens]
    rfl
  | .object ((name, value) :: members) => by
    rw [outline, tokens, Outline.spelling, memberOutlines, Outline.membersSpelling, List.tail_cons,
      spelling_outline value, membersSpelling_memberOutlines members, List.cons_append,
      List.cons_append, List.append_assoc]

/-- The tokens of items spell what a reader sees of them. -/
theorem itemsSpelling_itemOutlines :
    ∀ items : List Json, Outline.itemsSpelling (itemOutlines items) = itemsTokens items
  | [] => rfl
  | item :: items => by
    rw [itemOutlines, itemsTokens, Outline.itemsSpelling, spelling_outline item,
      itemsSpelling_itemOutlines items]

/-- The tokens of members spell what a reader sees of them. -/
theorem membersSpelling_memberOutlines : ∀ members : List (String × Json),
    Outline.membersSpelling (memberOutlines members) = membersTokens members
  | [] => rfl
  | (name, value) :: members => by
    rw [memberOutlines, membersTokens, Outline.membersSpelling, spelling_outline value,
      membersSpelling_memberOutlines members]

end

/-! ## What the texts of a value hold -/

namespace Document

/-- A text of a value, whatever blanks it is laid out with and whatever blanks follow it, holds this
value and nothing else. -/
theorem ofText_text {spacing : Spacing} (hspacing : spacing.Blank) (value : Json)
    {blanks : List Char} (hblanks : ∀ c ∈ blanks, isBlank c = true) :
    ofText (String.ofList (text spacing 0 value ++ blanks)) = ⟨outline value, false⟩ := by
  have hnothing : Token.ofText blanks = [] := by
    have h := ofText_blanks hblanks []
    rwa [List.append_nil, Token.ofText] at h
  have hend : EndsNumber blanks := by
    have h := EndsNumber.blanks hblanks .nil
    rwa [List.append_nil] at h
  have hrun := Outline.Reader.reads (isValue_outline value) [] []
  rw [List.append_nil, spelling_outline] at hrun
  unfold ofText ofTokens
  rw [String.toList_ofList, Token.ofText_text hspacing value 0 hend, hnothing, List.append_nil]
  show ofReader ((Outline.Reader.awaitValue []).run (tokens value)) = _
  rw [hrun]
  rfl

/-- What the compact text of a value holds. -/
theorem ofText_compact (value : Json) : ofText value.compact = ⟨outline value, false⟩ := by
  have h := ofText_text Spacing.blank_compact value (List.forall_mem_nil _)
  rwa [List.append_nil] at h

/-- What the pretty text of a value holds. -/
theorem ofText_pretty (value : Json) : ofText value.pretty = ⟨outline value, false⟩ := by
  have h := ofText_text Spacing.blank_pretty value (List.forall_mem_nil _)
  rwa [List.append_nil] at h

/-- What the pretty text of a value, ended by a line break, holds. -/
theorem ofText_pretty_line (value : Json) :
    ofText (value.pretty ++ "\n") = ⟨outline value, false⟩ := by
  have hline : value.pretty ++ "\n" = String.ofList (text .pretty 0 value ++ ['\n']) :=
    String.ofList_append.symm
  rw [hline]
  exact ofText_text Spacing.blank_pretty value (List.forall_mem_singleton.2 rfl)

end Document

/-- The compact text of a value is written as its outline says. -/
theorem writtenAs_compact (value : Json) : (outline value).WrittenAs value.compact :=
  Outline.writtenAs_iff.2 ⟨Document.ofText_compact value, (isValue_outline value).isWellFormed⟩

end ResourceMeter.Json
