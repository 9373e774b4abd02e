import ResourceMeter.Json
import ResourceMeter.Decimal.Shortest

/-!
# JSON texts

A value is written compact, without any blank, or pretty, with one member or item a line and two
spaces for each level. A number that is not finite is written as `null`.
-/

namespace ResourceMeter.Json

/-- Binary64 numbers are positional from `0.00001` to below `1e+16` and scientific elsewhere, with a
signed exponent; an integral value keeps its point. -/
def numberLayout : Decimal.Layout :=
  ⟨some (-4, 16), true, true⟩

/-- The text of a binary64 number; of two shortest decimals the one with an even last digit. -/
def floatText (x : Float) : String :=
  Decimal.shortestText numberLayout .toEven x

/-- A character inside a string: quote, backslash and controls are escaped, by a letter of their own
or by their code. -/
def escapedChar (c : Char) : List Char :=
  if c = '"' ∨ c = '\\' then ['\\', c]
  else if c = '\x08' then ['\\', 'b']
  else if c = '\x0c' then ['\\', 'f']
  else if c = '\n' then ['\\', 'n']
  else if c = '\r' then ['\\', 'r']
  else if c = '\t' then ['\\', 't']
  else if c.toNat < 0x20 then
    ['\\', 'u', '0', '0', Nat.digitChar (c.toNat / 16), Nat.digitChar (c.toNat % 16)]
  else [c]

/-- A string between its quotes. -/
def stringText (s : String) : List Char :=
  '"' :: s.toList.flatMap escapedChar ++ ['"']

/-- A value that holds no other. -/
def leafText : Json → List Char
  | .null => "null".toList
  | .bool true => "true".toList
  | .bool false => "false".toList
  | .count n => (Decimal.digits n).toList
  | .float x => if x.isFinite then (floatText x).toList else "null".toList
  | .string s => stringText s
  | .list _ => []
  | .object _ => []

/-- The start of a line at a level. -/
def newLine (level : Nat) : List Char :=
  '\n' :: List.replicate (2 * level) ' '

/-- How the text of a value is laid out: what stands at the start of a line at a level, and what
follows a colon. -/
structure Spacing where
  line : Nat → List Char
  afterColon : List Char

/-- No blanks at all. -/
def Spacing.compact : Spacing :=
  ⟨fun _ => [], []⟩

/-- One line for each item and member. -/
def Spacing.pretty : Spacing :=
  ⟨newLine, [' ']⟩

mutual

/-- The text of a value that starts at a level. -/
def text (spacing : Spacing) (level : Nat) : Json → List Char
  | .list [] => ['[', ']']
  | .list (item :: items) =>
    '[' :: spacing.line (level + 1) ++ text spacing (level + 1) item ++
      itemsText spacing (level + 1) items ++ spacing.line level ++ [']']
  | .object [] => ['\x7b', '\x7d']
  | .object ((name, value) :: members) =>
    '\x7b' :: spacing.line (level + 1) ++ stringText name ++ ':' :: spacing.afterColon ++
      text spacing (level + 1) value ++ membersText spacing (level + 1) members ++
      spacing.line level ++ ['\x7d']
  | .null => leafText .null
  | .bool b => leafText (.bool b)
  | .count n => leafText (.count n)
  | .float x => leafText (.float x)
  | .string s => leafText (.string s)

/-- The items of a list after the first. -/
def itemsText (spacing : Spacing) (level : Nat) : List Json → List Char
  | [] => []
  | item :: items =>
    ',' :: spacing.line level ++ text spacing level item ++ itemsText spacing level items

/-- The members of an object after the first. -/
def membersText (spacing : Spacing) (level : Nat) : List (String × Json) → List Char
  | [] => []
  | (name, value) :: members =>
    ',' :: spacing.line level ++ stringText name ++ ':' :: spacing.afterColon ++
      text spacing level value ++ membersText spacing level members

end

/-- The text without blanks. -/
def compact (value : Json) : String :=
  String.ofList (text .compact 0 value)

/-- The text with one line for each item and member. -/
def pretty (value : Json) : String :=
  String.ofList (text .pretty 0 value)

end ResourceMeter.Json
