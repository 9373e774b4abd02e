import Mathlib.Data.List.Basic
import ResourceMeter.Json.Codec
import ResourceMeter.Proofs.Json.Lexing

/-!
# What a text says

An `Outline` that is a value has one row of tokens that spells it (`Outline.spelling`), and
`Outline.WrittenAs` says that a text consists of these tokens, with any blanks between them. The
reader finds exactly that: a text holds a value and nothing else if and only if the value is written
so (`Outline.writtenAs_iff`).
-/

namespace ResourceMeter.Json

open Token

/-! ## Spellings -/

namespace Outline

mutual

/-- The tokens that spell a value. -/
def spelling : Outline → List Token
  | .leaf token => [token]
  | .list items => .openList :: ((itemsSpelling items).tail ++ [.closeList])
  | .object members => .openObject :: ((membersSpelling members).tail ++ [.closeObject])

/-- The tokens that spell items of a list, each behind a comma. -/
def itemsSpelling : List Outline → List Token
  | [] => []
  | item :: items => .comma :: (item.spelling ++ itemsSpelling items)

/-- The tokens that spell members of an object, each behind a comma. -/
def membersSpelling : List (Token × Outline) → List Token
  | [] => []
  | (name, value) :: members =>
    .comma :: name :: .colon :: (value.spelling ++ membersSpelling members)

end

/-- A token that is a value by itself. -/
inductive Scalar : Token → Prop
  | null : Scalar .null
  | bool (b : Bool) : Scalar (.bool b)
  | number (n : Decimal.Numeral) : Scalar (.number n)
  | string (s : String) : Scalar (.string s)
  | brokenString : Scalar .brokenString

/-- A token that may stand in front of a colon. -/
inductive Name : Token → Prop
  | string (s : String) : Name (.string s)
  | brokenString : Name .brokenString

/-- The outline is a value throughout. -/
inductive IsValue : Outline → Prop
  | leaf {token : Token} : Scalar token → IsValue (.leaf token)
  | list {items : List Outline} : (∀ item ∈ items, IsValue item) → IsValue (.list items)
  | object {members : List (Token × Outline)} : (∀ member ∈ members, Name member.1) →
      (∀ member ∈ members, IsValue member.2) → IsValue (.object members)

/-- The text consists of the tokens that spell the value, with any blanks between them. -/
structure WrittenAs (value : Outline) (text : String) : Prop where
  isValue : value.IsValue
  spells : Spells text.toList value.spelling

/-! ## Containers and what they hold -/

/-- Items are well formed if each of them is. -/
theorem areWellFormed_iff {items : List Outline} :
    areWellFormed items = true ↔ ∀ item ∈ items, item.isWellFormed = true := by
  induction items with
  | nil => exact ⟨fun _ => List.forall_mem_nil _, fun _ => rfl⟩
  | cons item items ih => rw [areWellFormed, Bool.and_eq_true, ih, List.forall_mem_cons]

/-- Members are well formed if each of them has a name and a well-formed value. -/
theorem membersAreWellFormed_iff {members : List (Token × Outline)} :
    membersAreWellFormed members = true ↔
      ∀ member ∈ members, Name member.1 ∧ member.2.isWellFormed = true := by
  induction members with
  | nil => exact ⟨fun _ => List.forall_mem_nil _, fun _ => rfl⟩
  | cons member members ih =>
    obtain ⟨name, value⟩ := member
    rw [List.forall_mem_cons, ← ih]
    cases name with
    | string s =>
      rw [membersAreWellFormed, Bool.and_eq_true]
      exact and_congr_left' (and_iff_right (.string s)).symm
    | brokenString =>
      rw [membersAreWellFormed, Bool.and_eq_true]
      exact and_congr_left' (and_iff_right .brokenString).symm
    | _ => exact ⟨nofun, fun h => nomatch h.1.1⟩

/-- Values are well formed. -/
theorem IsValue.isWellFormed {value : Outline} (h : value.IsValue) :
    value.isWellFormed = true := by
  induction h with
  | leaf h => cases h <;> rfl
  | list _ ih =>
    rw [Outline.isWellFormed, areWellFormed_iff]
    exact ih
  | object hnames _ ih =>
    rw [Outline.isWellFormed, membersAreWellFormed_iff]
    exact fun member hmember => ⟨hnames member hmember, ih member hmember⟩

/-- Items are spelled one after the other. -/
theorem itemsSpelling_eq (items : List Outline) :
    itemsSpelling items = items.flatMap fun item => .comma :: item.spelling := by
  induction items with
  | nil => rfl
  | cons item items ih => rw [itemsSpelling, ih, List.flatMap_cons, List.cons_append]

/-- Members are spelled one after the other. -/
theorem membersSpelling_eq (members : List (Token × Outline)) : membersSpelling members =
    members.flatMap fun (name, value) => .comma :: name :: .colon :: value.spelling := by
  induction members with
  | nil => rfl
  | cons member members ih =>
    rw [membersSpelling, ih, List.flatMap_cons]
    rfl

/-- The tokens of an item are tokens of the list. -/
theorem spelling_subset_list {item : Outline} {items : List Outline} (h : item ∈ items) :
    item.spelling ⊆ (list items).spelling := by
  intro token htoken
  rw [spelling, itemsSpelling_eq]
  cases items with
  | nil => cases h
  | cons first items =>
    rcases List.mem_cons.1 h with rfl | h
    · simp [htoken]
    · have hmem : token ∈ items.flatMap fun item => .comma :: item.spelling :=
        List.mem_flatMap.2 ⟨item, h, List.mem_cons_of_mem _ htoken⟩
      simp [hmem]

/-- The tokens of the value of a member are tokens of the object. -/
theorem spelling_subset_object {name : Token} {value : Outline}
    {members : List (Token × Outline)} (h : (name, value) ∈ members) :
    value.spelling ⊆ (object members).spelling := by
  intro token htoken
  rw [spelling, membersSpelling_eq]
  cases members with
  | nil => cases h
  | cons first members =>
    rcases List.mem_cons.1 h with rfl | h
    · simp [htoken]
    · have hmem : token ∈ members.flatMap fun (name, value) =>
          .comma :: name :: .colon :: value.spelling :=
        List.mem_flatMap.2 ⟨(name, value), h, by simp [htoken]⟩
      simp [hmem]

/-- No token of a value is bad. -/
theorem IsValue.bad_not_mem_spelling {value : Outline} (h : value.IsValue) :
    .bad ∉ value.spelling := by
  induction h with
  | leaf h => cases h <;> simp [spelling]
  | @list items _ ih =>
    intro hbad
    rw [spelling, itemsSpelling_eq, List.mem_cons, List.mem_append, List.mem_singleton] at hbad
    obtain hbad | hbad | hbad := hbad
    · cases hbad
    · obtain ⟨item, hitem, hmem⟩ := List.mem_flatMap.1 (List.mem_of_mem_tail hbad)
      exact ih item hitem (by simpa using hmem)
    · cases hbad
  | @object members hnames _ ih =>
    intro hbad
    rw [spelling, membersSpelling_eq, List.mem_cons, List.mem_append, List.mem_singleton] at hbad
    obtain hbad | hbad | hbad := hbad
    · cases hbad
    · obtain ⟨⟨name, value⟩, hmember, hmem⟩ := List.mem_flatMap.1 (List.mem_of_mem_tail hbad)
      have hname : .bad ≠ name := by
        rintro rfl
        cases hnames _ hmember
      exact ih _ hmember (by simpa [hname] using hmem)
    · cases hbad

/-! ## Values are read from their tokens -/

namespace Reader

/-- The state of a reader after some tokens. -/
def run (reader : Reader) (tokens : List Token) : Reader :=
  tokens.foldl step reader

/-- One token after the other. -/
theorem run_cons (reader : Reader) (token : Token) (tokens : List Token) :
    reader.run (token :: tokens) = (reader.step token).run tokens := rfl

/-- A reader takes a name and a colon. -/
theorem run_name {name : Token} (h : Name name) (stack : List Frame)
    (members : List (Token × Outline)) (first : Bool) (rest : List Token) :
    (awaitName stack members first).run (name :: .colon :: rest) =
      (awaitValue (.object members name :: stack)).run rest := by
  cases h <;> rfl

/-- The first item of a list is read like any other value. -/
theorem run_awaitItem {value : Outline} (h : value.IsValue) (stack : List Frame)
    (rest : List Token) : (awaitItem stack).run (value.spelling ++ rest) =
      (awaitValue (.list [] :: stack)).run (value.spelling ++ rest) := by
  cases h with
  | leaf h => cases h <;> rfl
  | list | object =>
    rw [spelling]
    rfl

/-- A value that is read from its tokens in front of any others. -/
def Reads (value : Outline) : Prop :=
  ∀ stack rest, (awaitValue stack).run (value.spelling ++ rest) = (after stack value).run rest

/-- From the tokens of the items behind a first one the rest of a list is read. -/
theorem run_itemsSpelling {items : List Outline} (h : ∀ item ∈ items, Reads item)
    (stack : List Frame) (before : List Outline) (value : Outline) (rest : List Token) :
    (after (.list before :: stack) value).run (itemsSpelling items ++ .closeList :: rest) =
      (after stack (.list ((value :: before).reverse ++ items))).run rest := by
  induction items generalizing before value with
  | nil =>
    rw [List.append_nil]
    rfl
  | cons item items ih =>
    obtain ⟨hitem, hitems⟩ := List.forall_mem_cons.1 h
    rw [itemsSpelling, List.cons_append, run_cons, List.append_assoc]
    show (awaitValue (.list (value :: before) :: stack)).run _ = _
    rw [hitem, ih hitems, List.reverse_cons (a := item), List.append_assoc, List.singleton_append]

/-- From the tokens of the members behind a first one the rest of an object is read. -/
theorem run_membersSpelling {members : List (Token × Outline)}
    (h : ∀ member ∈ members, Name member.1 ∧ Reads member.2) (stack : List Frame)
    (before : List (Token × Outline)) (name : Token) (value : Outline) (rest : List Token) :
    (after (.object before name :: stack) value).run
        (membersSpelling members ++ .closeObject :: rest) =
      (after stack (.object (((name, value) :: before).reverse ++ members))).run rest := by
  induction members generalizing before name value with
  | nil =>
    rw [List.append_nil]
    rfl
  | cons member members ih =>
    obtain ⟨name', value'⟩ := member
    obtain ⟨⟨hname, hvalue⟩, hmembers⟩ := List.forall_mem_cons.1 h
    rw [membersSpelling, List.cons_append, run_cons, List.cons_append, List.cons_append]
    show (awaitName stack ((name, value) :: before) false).run _ = _
    rw [run_name hname, List.append_assoc, hvalue, ih hmembers,
      List.reverse_cons (a := (name', value')), List.append_assoc, List.singleton_append]

/-- Every value is read from its tokens. -/
theorem reads {value : Outline} (h : value.IsValue) : Reads value := by
  induction h with
  | leaf h =>
    intro stack rest
    cases h <;> rfl
  | @list items hvalues ih =>
    intro stack rest
    rw [spelling, List.cons_append, run_cons, List.append_assoc, List.singleton_append]
    show (awaitItem stack).run _ = _
    cases items with
    | nil => rfl
    | cons item items =>
      obtain ⟨hitem, hitems⟩ := List.forall_mem_cons.1 ih
      rw [itemsSpelling, List.tail_cons, List.append_assoc,
        run_awaitItem (hvalues item (List.mem_cons_self ..)), hitem, run_itemsSpelling hitems]
      rfl
  | @object members hnames hvalues ih =>
    intro stack rest
    rw [spelling, List.cons_append, run_cons, List.append_assoc, List.singleton_append]
    show (awaitName stack [] true).run _ = _
    cases members with
    | nil => rfl
    | cons member members =>
      obtain ⟨name, value⟩ := member
      have hall : ∀ member ∈ (name, value) :: members, Name member.1 ∧ Reads member.2 :=
        fun member hmember => ⟨hnames member hmember, ih member hmember⟩
      obtain ⟨⟨hname, hvalue⟩, hmembers⟩ := List.forall_mem_cons.1 hall
      rw [membersSpelling, List.tail_cons, List.cons_append, List.cons_append, run_name hname,
        List.append_assoc, hvalue, run_membersSpelling hmembers]
      rfl

/-! ## What is read is what was taken -/

/-- The tokens that spell items of a list, each in front of a comma. -/
def openItems (items : List Outline) : List Token :=
  items.flatMap fun item => item.spelling ++ [.comma]

/-- The tokens that spell members of an object, each in front of a comma. -/
def openMembers (members : List (Token × Outline)) : List Token :=
  members.flatMap fun (name, value) => name :: .colon :: value.spelling ++ [.comma]

/-- Commas in front of items are commas behind all but the last. -/
theorem itemsSpelling_concat (items : List Outline) (value : Outline) :
    itemsSpelling (items ++ [value]) = .comma :: (openItems items ++ value.spelling) := by
  induction items with
  | nil => simp only [List.nil_append, itemsSpelling, List.append_nil, openItems, List.flatMap_nil]
  | cons item items ih =>
    simp only [List.cons_append, itemsSpelling, ih, openItems, List.flatMap_cons,
      List.append_assoc, List.nil_append]

/-- Commas in front of members are commas behind all but the last. -/
theorem membersSpelling_concat (members : List (Token × Outline)) (name : Token)
    (value : Outline) : membersSpelling (members ++ [(name, value)]) =
      .comma :: (openMembers members ++ name :: .colon :: value.spelling) := by
  induction members with
  | nil =>
    simp only [List.nil_append, membersSpelling, List.append_nil, openMembers, List.flatMap_nil]
  | cons member members ih =>
    simp only [List.cons_append, membersSpelling, ih, openMembers, List.flatMap_cons,
      List.append_assoc, List.nil_append]

/-- The tokens of an open container up to the start of the next value. -/
def frameSpelling : Frame → List Token
  | .list items => .openList :: openItems items.reverse
  | .object members name => .openObject :: (openMembers members.reverse ++ [name, .colon])

/-- The tokens of all open containers up to the start of the next value. -/
def stackSpelling : List Frame → List Token
  | [] => []
  | frame :: stack => stackSpelling stack ++ frameSpelling frame

/-- The members have names and values. -/
structure AreMembers (members : List (Token × Outline)) : Prop where
  names : ∀ member ∈ members, Name member.1
  values : ∀ member ∈ members, member.2.IsValue

/-- What an open container holds so far are values. -/
def HoldsValues : Frame → Prop
  | .list items => ∀ item ∈ items, item.IsValue
  | .object members name => AreMembers members ∧ Name name

/-- What a reader knows about the tokens that it took: unless it stopped, its state spells them. -/
inductive Took : Reader → List Token → Prop
  | awaitValue {stack : List Frame} : (∀ frame ∈ stack, HoldsValues frame) →
      Took (.awaitValue stack) (stackSpelling stack)
  | awaitItem {stack : List Frame} : (∀ frame ∈ stack, HoldsValues frame) →
      Took (.awaitItem stack) (stackSpelling stack ++ [.openList])
  | awaitName {stack : List Frame} {members : List (Token × Outline)} {first : Bool} :
      (∀ frame ∈ stack, HoldsValues frame) → AreMembers members → (first = true → members = []) →
      Took (.awaitName stack members first) (stackSpelling stack ++
        .openObject :: openMembers members.reverse)
  | awaitColon {stack : List Frame} {members : List (Token × Outline)} {name : Token} :
      (∀ frame ∈ stack, HoldsValues frame) → AreMembers members → Name name →
      Took (.awaitColon stack members name) (stackSpelling stack ++
        .openObject :: (openMembers members.reverse ++ [name]))
  | after {stack : List Frame} {value : Outline} : (∀ frame ∈ stack, HoldsValues frame) →
      value.IsValue → Took (.after stack value) (stackSpelling stack ++ value.spelling)
  | stopped {root : Outline} {trailing : Bool} {taken : List Token} :
      (trailing = false → ¬ root.isWellFormed = true) → Took (.stopped root trailing) taken

variable {stack : List Frame} {members : List (Token × Outline)} {taken : List Token}

/-- What is enclosed in well-formed containers is well formed. -/
theorem isWellFormed_of_enclose {value : Outline}
    (h : (enclose value stack).isWellFormed = true) : value.isWellFormed = true := by
  induction stack generalizing value with
  | nil => exact h
  | cons frame stack ih =>
    cases frame with
    | list items =>
      have hlist := ih h
      rw [isWellFormed, areWellFormed_iff] at hlist
      exact hlist value (List.mem_reverse.2 (List.mem_cons_self ..))
    | object members name =>
      have hobject := ih h
      rw [isWellFormed, membersAreWellFormed_iff] at hobject
      exact (hobject (name, value) (List.mem_reverse.2 (List.mem_cons_self ..))).2

/-- A reader that stopped in front of the end knows nothing. -/
theorem Took.of_bad (stack : List Frame) (taken : List Token) :
    Took (.stopped (enclose bad stack) false) taken :=
  .stopped fun _ hform => nomatch isWellFormed_of_enclose hform

/-- What is known after a token where a value has to start. -/
theorem Took.begin (hstack : ∀ frame ∈ stack, HoldsValues frame) (token : Token) :
    Took (Reader.begin stack token) (stackSpelling stack ++ [token]) := by
  cases token with
  | openList => exact .awaitItem hstack
  | openObject => exact .awaitName hstack ⟨nofun, nofun⟩ fun _ => rfl
  | null => exact .after hstack (.leaf .null)
  | bool b => exact .after hstack (.leaf (.bool b))
  | number n => exact .after hstack (.leaf (.number n))
  | string s => exact .after hstack (.leaf (.string s))
  | brokenString => exact .after hstack (.leaf .brokenString)
  | closeList | closeObject | comma | colon | bad => exact .of_bad ..

/-- What is known after a token behind an item of a list. -/
theorem Took.proceed_list {items : List Outline} {value : Outline}
    (hstack : ∀ frame ∈ stack, HoldsValues frame) (hitems : ∀ item ∈ value :: items, item.IsValue)
    (token : Token) : Took (Reader.proceed value (.list items :: stack) token)
      (stackSpelling (.list items :: stack) ++ value.spelling ++ [token]) := by
  cases token with
  | comma =>
    have hspelling : stackSpelling (.list items :: stack) ++ value.spelling ++ [.comma] =
        stackSpelling (.list (value :: items) :: stack) := by
      simp [stackSpelling, frameSpelling, openItems]
    rw [hspelling]
    exact .awaitValue (List.forall_mem_cons.2 ⟨hitems, hstack⟩)
  | closeList =>
    have hspelling : stackSpelling (.list items :: stack) ++ value.spelling ++ [.closeList] =
        stackSpelling stack ++ (list (value :: items).reverse).spelling := by
      rw [List.reverse_cons, spelling, itemsSpelling_concat]
      simp [stackSpelling, frameSpelling]
    rw [hspelling]
    exact .after hstack (.list fun item hitem => hitems item (List.mem_reverse.1 hitem))
  | _ => exact .of_bad ..

/-- What is known after a token behind the value of a member. -/
theorem Took.proceed_object {name : Token} {value : Outline}
    (hstack : ∀ frame ∈ stack, HoldsValues frame) (hmembers : AreMembers ((name, value) :: members))
    (token : Token) : Took (Reader.proceed value (.object members name :: stack) token)
      (stackSpelling (.object members name :: stack) ++ value.spelling ++ [token]) := by
  cases token with
  | comma =>
    have hspelling : stackSpelling (.object members name :: stack) ++ value.spelling ++ [.comma] =
        stackSpelling stack ++ .openObject :: openMembers ((name, value) :: members).reverse := by
      simp [stackSpelling, frameSpelling, openMembers]
    rw [hspelling]
    exact .awaitName hstack hmembers nofun
  | closeObject =>
    have hspelling :
        stackSpelling (.object members name :: stack) ++ value.spelling ++ [.closeObject] =
          stackSpelling stack ++ (object ((name, value) :: members).reverse).spelling := by
      rw [List.reverse_cons, spelling, membersSpelling_concat]
      simp [stackSpelling, frameSpelling]
    rw [hspelling]
    exact .after hstack (.object
      (fun member hmember => hmembers.names member (List.mem_reverse.1 hmember))
      fun member hmember => hmembers.values member (List.mem_reverse.1 hmember))
  | _ => exact .of_bad ..

/-- What is known after a token where a name has to stand. -/
theorem Took.member (hstack : ∀ frame ∈ stack, HoldsValues frame) (hmembers : AreMembers members)
    {first : Bool} (hfirst : first = true → members = []) (token : Token) :
    Took (Reader.member stack members first token)
      (stackSpelling stack ++ .openObject :: openMembers members.reverse ++ [token]) := by
  rw [List.append_assoc, List.cons_append]
  cases token with
  | string s => exact .awaitColon hstack hmembers (.string s)
  | brokenString => exact .awaitColon hstack hmembers .brokenString
  | closeObject =>
    cases first with
    | true =>
      rw [hfirst rfl]
      exact .after hstack (.object (List.forall_mem_nil _) (List.forall_mem_nil _))
    | false => exact .of_bad ..
  | _ => exact .of_bad ..

/-- What is known after one more token. -/
theorem Took.step {reader : Reader} (h : Took reader taken) (token : Token) :
    Took (reader.step token) (taken ++ [token]) := by
  cases h with
  | awaitValue hstack => exact .begin hstack token
  | @awaitItem stack hstack =>
    have hopen : ∀ frame ∈ .list [] :: stack, HoldsValues frame :=
      List.forall_mem_cons.2 ⟨List.forall_mem_nil _, hstack⟩
    have hbegin := Took.begin hopen token
    cases token with
    | closeList =>
      rw [List.append_assoc]
      exact .after hstack (.list (List.forall_mem_nil _))
    | _ => exact hbegin
  | awaitName hstack hmembers hfirst => exact .member hstack hmembers hfirst token
  | @awaitColon stack members name hstack hmembers hname =>
    cases token with
    | colon =>
      have hspelling : stackSpelling stack ++
          .openObject :: (openMembers members.reverse ++ [name]) ++ [.colon] =
            stackSpelling (.object members name :: stack) := by
        simp [stackSpelling, frameSpelling]
      rw [hspelling]
      exact .awaitValue (List.forall_mem_cons.2 ⟨⟨hmembers, hname⟩, hstack⟩)
    | _ => exact .of_bad ..
  | @after stack value hstack hvalue =>
    cases stack with
    | nil => exact .stopped nofun
    | cons frame stack =>
      obtain ⟨hframe, houter⟩ := List.forall_mem_cons.1 hstack
      cases frame with
      | list items => exact .proceed_list houter (List.forall_mem_cons.2 ⟨hvalue, hframe⟩) token
      | object members name =>
        obtain ⟨hmembers, hname⟩ := hframe
        exact .proceed_object houter ⟨List.forall_mem_cons.2 ⟨hname, hmembers.names⟩,
          List.forall_mem_cons.2 ⟨hvalue, hmembers.values⟩⟩ token
  | stopped h => exact .stopped h

/-- What is known after several tokens. -/
theorem Took.run {reader : Reader} (h : Took reader taken) (tokens : List Token) :
    Took (reader.run tokens) (taken ++ tokens) := by
  induction tokens generalizing reader taken with
  | nil => rwa [List.append_nil]
  | cons token tokens ih =>
    rw [run_cons, List.append_cons]
    exact ih (h.step token)

/-- A reader that ends with a well-formed value took the tokens that spell it. -/
theorem Took.of_ofReader {reader : Reader} {value : Outline} (h : Took reader taken)
    (hroot : Document.ofReader reader = ⟨value, false⟩) (hform : value.isWellFormed = true) :
    value.IsValue ∧ taken = value.spelling := by
  have hbad (stack : List Frame) : enclose bad stack ≠ value := by
    rintro rfl
    cases isWellFormed_of_enclose hform
  cases h with
  | awaitValue | awaitItem | awaitName | awaitColon =>
    exact absurd (congrArg Document.root hroot) (hbad _)
  | @after stack found hstack hfound =>
    cases stack with
    | nil =>
      cases hroot
      exact ⟨hfound, rfl⟩
    | cons frame stack => cases frame <;> exact absurd (congrArg Document.root hroot) (hbad _)
  | stopped hstopped =>
    cases hroot
    exact absurd hform (hstopped rfl)

end Reader

/-! ## What a text says -/

/-- A text holds a well-formed value and nothing else if and only if the value is written so. -/
theorem writtenAs_iff {value : Outline} {text : String} :
    value.WrittenAs text ↔ Document.ofText text = ⟨value, false⟩ ∧ value.isWellFormed = true := by
  constructor
  · rintro ⟨hvalue, hspells⟩
    refine ⟨?_, hvalue.isWellFormed⟩
    have hrun := Reader.reads hvalue [] []
    rw [List.append_nil] at hrun
    unfold Document.ofText Document.ofTokens
    rw [hspells.ofText_eq]
    exact congrArg Document.ofReader hrun
  · rintro ⟨htext, hform⟩
    have htook := Reader.Took.run (.awaitValue (List.forall_mem_nil _)) (Token.ofText text.toList)
    obtain ⟨hvalue, hspelling⟩ := htook.of_ofReader htext hform
    rw [Reader.stackSpelling, List.nil_append] at hspelling
    refine ⟨hvalue, ?_⟩
    rw [← hspelling]
    exact spells_ofText (hspelling ▸ hvalue.bad_not_mem_spelling)

end Outline

end ResourceMeter.Json
