import ResourceMeter.Text.Combining
import ResourceMeter.Text.Ignorable
import ResourceMeter.Text.Unassigned

/-!
# Characters that show themselves

`isPrintable` tells the characters that a quoted text may show as they are from those it has to
spell out: controls, format characters, separators other than the space, private code points,
unassigned ones, marks that combine with the character before them, and characters that may leave
no trace.
-/

namespace ResourceMeter.Text

/-- The ranges of controls, format characters, surrogates, private code points, and separators other
than the space. -/
def invisibleRanges : List (Nat × Nat) :=
  [(0x0, 0x1F), (0x7F, 0xA0), (0xAD, 0xAD), (0x600, 0x605), (0x61C, 0x61C), (0x6DD, 0x6DD),
   (0x70F, 0x70F), (0x890, 0x891), (0x8E2, 0x8E2), (0x1680, 0x1680), (0x180E, 0x180E),
   (0x2000, 0x200F), (0x2028, 0x202F), (0x205F, 0x2064), (0x2066, 0x206F), (0x3000, 0x3000),
   (0xD800, 0xF8FF), (0xFEFF, 0xFEFF), (0xFFF9, 0xFFFB), (0x110BD, 0x110BD), (0x110CD, 0x110CD),
   (0x13430, 0x1343F), (0x1BCA0, 0x1BCA3), (0x1D173, 0x1D17A), (0xE0001, 0xE0001),
   (0xE0020, 0xE007F), (0xF0000, 0xFFFFD), (0x100000, 0x10FFFD)]

/-- A quoted text shows the character as it is. -/
def isPrintable (c : Char) : Bool :=
  !inRanges invisibleRanges c.toNat && !isCombining c && !isIgnorable c && !isUnassigned c

end ResourceMeter.Text
