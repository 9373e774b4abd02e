import ResourceMeter.Text.Printable

/-!
# Quoted text

`quoted s` shows a text between double quotes, as messages quote it. The quote and the backslash
are escaped, tab, line feed, carriage return and null have letters of their own, and every other
character that is not printable is spelled as its code point.
-/

namespace ResourceMeter.Text

/-- The lower-case digits of a number in base sixteen. -/
def hexDigits (n : Nat) : List Char :=
  Nat.toDigits 16 n

/-- A character as a quoted text shows it. -/
def quotedChar (c : Char) : List Char :=
  if c = '\x00' then ['\\', '0']
  else if c = '\t' then ['\\', 't']
  else if c = '\r' then ['\\', 'r']
  else if c = '\n' then ['\\', 'n']
  else if c = '"' ∨ c = '\\' then ['\\', c]
  else if isPrintable c then [c]
  else ['\\', 'u', '\x7b'] ++ hexDigits c.toNat ++ ['\x7d']

/-- The text between double quotes, with its characters escaped where needed. -/
def quoted (s : String) : String :=
  String.ofList (['"'] ++ s.toList.flatMap quotedChar ++ ['"'])

end ResourceMeter.Text
