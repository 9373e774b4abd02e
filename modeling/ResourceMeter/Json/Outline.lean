import ResourceMeter.Json.Token

/-!
# What a JSON text holds

`Document.ofText` reads the tokens of a text into an `Outline`: the value that the text holds, as
far as it is well formed. Where a text breaks off or goes on in a way that JSON does not allow, the
outline has the leaf `bad` and every container around it ends there. A reader that visits an outline
from the front therefore meets the first fault of the text, be it of form or of meaning.

The tokens are taken one at a time, with a stack of the containers that are open, so nesting may go
to any depth.
-/

namespace ResourceMeter.Json

/-- What a text holds. The name of a member is a token, since a text may break there. -/
inductive Outline where
  | leaf (token : Token)
  | list (items : List Outline)
  | object (members : List (Token × Outline))

namespace Outline

/-- The place where a text stops being JSON. -/
def bad : Outline :=
  .leaf .bad

mutual

/-- The value is well formed throughout. A string that does not spell characters counts, as long as
nobody reads it. -/
def isWellFormed : Outline → Bool
  | .leaf token => token != .bad
  | .list items => areWellFormed items
  | .object members => membersAreWellFormed members

/-- All items are well formed. -/
def areWellFormed : List Outline → Bool
  | [] => true
  | item :: items => item.isWellFormed && areWellFormed items

/-- All members are well formed, and their names are strings. -/
def membersAreWellFormed : List (Token × Outline) → Bool
  | [] => true
  | (.string _, value) :: members => value.isWellFormed && membersAreWellFormed members
  | (.brokenString, value) :: members => value.isWellFormed && membersAreWellFormed members
  | _ :: _ => false

end

/-- A container that is open, with what it holds so far, the last first. An object also has the name
of the member whose value comes next. -/
inductive Frame where
  | list (items : List Outline)
  | object (members : List (Token × Outline)) (name : Token)

/-- Puts a value into the innermost container and ends every container that is open. -/
def enclose (value : Outline) : List Frame → Outline
  | [] => value
  | .list items :: stack => enclose (.list (value :: items).reverse) stack
  | .object members name :: stack => enclose (.object ((name, value) :: members).reverse) stack

/-- What the next token has to be. -/
inductive Reader where
  /-- The start of a value. -/
  | awaitValue (stack : List Frame)
  /-- The start of the first item of a list, or the end of the list. -/
  | awaitItem (stack : List Frame)
  /-- The name of a member; of the first one, or else the end of the object. -/
  | awaitName (stack : List Frame) (members : List (Token × Outline)) (first : Bool)
  /-- The colon behind a name. -/
  | awaitColon (stack : List Frame) (members : List (Token × Outline)) (name : Token)
  /-- What follows a value: a comma or the end of the innermost container, or nothing at all. -/
  | after (stack : List Frame) (value : Outline)
  /-- Nothing: the text went on behind its value, or it is broken. -/
  | stopped (root : Outline) (trailing : Bool)

namespace Reader

/-- A token where a value has to start. -/
def begin (stack : List Frame) : Token → Reader
  | .openList => .awaitItem stack
  | .openObject => .awaitName stack [] true
  | .null => .after stack (.leaf .null)
  | .bool b => .after stack (.leaf (.bool b))
  | .number n => .after stack (.leaf (.number n))
  | .string s => .after stack (.leaf (.string s))
  | .brokenString => .after stack (.leaf .brokenString)
  | .closeList | .closeObject | .comma | .colon | .bad => .stopped (enclose bad stack) false

/-- A token behind a value. -/
def proceed (value : Outline) : List Frame → Token → Reader
  | [], _ => .stopped value true
  | .list items :: stack, .comma => .awaitValue (.list (value :: items) :: stack)
  | .list items :: stack, .closeList => .after stack (.list (value :: items).reverse)
  | .list items :: stack, _ => .stopped (enclose bad (.list (value :: items) :: stack)) false
  | .object members name :: stack, .comma => .awaitName stack ((name, value) :: members) false
  | .object members name :: stack, .closeObject =>
    .after stack (.object ((name, value) :: members).reverse)
  | .object members name :: stack, _ =>
    .stopped (enclose bad (.object ((name, value) :: members) .bad :: stack)) false

/-- A token where a name has to stand. -/
def member (stack : List Frame) (members : List (Token × Outline)) (first : Bool) :
    Token → Reader
  | .string s => .awaitColon stack members (.string s)
  | .brokenString => .awaitColon stack members .brokenString
  | .closeObject =>
    if first then .after stack (.object [])
    else .stopped (enclose bad (.object members .bad :: stack)) false
  | token => .stopped (enclose bad (.object members token :: stack)) false

/-- Takes one token. -/
def step : Reader → Token → Reader
  | .awaitValue stack, token => begin stack token
  | .awaitItem stack, .closeList => .after stack (.list [])
  | .awaitItem stack, token => begin (.list [] :: stack) token
  | .awaitName stack members first, token => member stack members first token
  | .awaitColon stack members name, .colon => .awaitValue (.object members name :: stack)
  | .awaitColon stack members name, _ =>
    .stopped (enclose bad (.object members name :: stack)) false
  | .after stack value, token => proceed value stack token
  | .stopped root trailing, _ => .stopped root trailing

end Reader

end Outline

/-- What a text holds, and whether more follows it. -/
structure Document where
  root : Outline
  trailing : Bool

namespace Document

open Outline

/-- What is read when the tokens end. -/
def ofReader : Reader → Document
  | .awaitValue stack => ⟨enclose bad stack, false⟩
  | .awaitItem stack => ⟨enclose bad (.list [] :: stack), false⟩
  | .awaitName stack members _ => ⟨enclose bad (.object members .bad :: stack), false⟩
  | .awaitColon stack members name => ⟨enclose bad (.object members name :: stack), false⟩
  | .after [] value => ⟨value, false⟩
  | .after (.list items :: stack) value => ⟨enclose bad (.list (value :: items) :: stack), false⟩
  | .after (.object members name :: stack) value =>
    ⟨enclose bad (.object ((name, value) :: members) .bad :: stack), false⟩
  | .stopped root trailing => ⟨root, trailing⟩

/-- What the tokens hold. -/
def ofTokens (tokens : List Token) : Document :=
  ofReader (tokens.foldl Reader.step (.awaitValue []))

/-- What the text holds. -/
def ofText (text : String) : Document :=
  ofTokens (Token.ofText text.toList)

end Document

end ResourceMeter.Json
