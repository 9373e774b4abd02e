import ResourceMeter.Text.CodeRange

/-!
# Blank text

`isBlank` is the Unicode property `White_Space`. A text is blank when it has no other character.
-/

namespace ResourceMeter.Text

/-- The ranges of code points with the property `White_Space`. -/
def blankRanges : List (Nat × Nat) :=
  [(0x9, 0xD), (0x20, 0x20), (0x85, 0x85), (0xA0, 0xA0), (0x1680, 0x1680), (0x2000, 0x200A),
   (0x2028, 0x2029), (0x202F, 0x202F), (0x205F, 0x205F), (0x3000, 0x3000)]

/-- The character has the property `White_Space`. -/
def isBlank (c : Char) : Bool :=
  inRanges blankRanges c.toNat

/-- The text has no character that is not blank. -/
def isBlankText (s : String) : Bool :=
  s.toList.all isBlank

end ResourceMeter.Text
