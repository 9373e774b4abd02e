/-!
# Columns

Texts filled up with spaces to a width, for tables of a report. A text that is wider stays as it is.
-/

namespace ResourceMeter.Text

/-- A run of spaces. -/
def spaces (n : Nat) : String :=
  String.ofList (List.replicate n ' ')

/-- The text at the left of a column. -/
def padRight (width : Nat) (s : String) : String :=
  s ++ spaces (width - s.length)

/-- The text at the right of a column. -/
def padLeft (width : Nat) (s : String) : String :=
  spaces (width - s.length) ++ s

end ResourceMeter.Text
