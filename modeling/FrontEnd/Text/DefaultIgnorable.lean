/-
# FrontEnd.Text.DefaultIgnorable — characters without a shape of their own.

The Unicode property Default_Ignorable_Code_Point holds of characters that a display leaves out
when it does not know them: joiners, variation selectors, and the fillers of the Hangul script,
which are letters and still draw nothing.  The table lists its ranges, first and last code point
included, in increasing order.
-/
import FrontEnd.Text.Printable

namespace FrontEnd.DefaultIgnorable

/-- The ranges of the property. -/
def ranges : List (Nat × Nat) :=
  [(0xAD, 0xAD), (0x34F, 0x34F), (0x61C, 0x61C), (0x115F, 0x1160), (0x17B4, 0x17B5),
   (0x180B, 0x180F), (0x200B, 0x200F), (0x202A, 0x202E), (0x2060, 0x206F), (0x3164, 0x3164),
   (0xFE00, 0xFE0F), (0xFEFF, 0xFEFF), (0xFFA0, 0xFFA0), (0xFFF0, 0xFFF8), (0x1BCA0, 0x1BCA3),
   (0x1D173, 0x1D17A), (0xE0000, 0xE0FFF)]

/-- Whether a display may leave a character out. -/
def isDefaultIgnorable (c : Char) : Bool := Printable.inRanges ranges c.toNat

end FrontEnd.DefaultIgnorable
