/-
# FrontEnd.Text.Escaped — one character as a message shows it.

The escape of a character is itself unless a reader could not see it, could mistake it for a
quote, or would see it attached to its neighbour.
-/
import FrontEnd.Text.Printable
import FrontEnd.Text.GraphemeExtend
import FrontEnd.Text.DefaultIgnorable

namespace FrontEnd.Escaped

/-- The lower-case hexadecimal digits of a number, without leading zeros. -/
def hexDigits (n : Nat) : String := .ofList (Nat.toDigits 16 n)

/-- The escape that names a character by its code point. -/
def codePoint (c : Char) : String := "\\u\x7b" ++ hexDigits c.toNat ++ "\x7d"

/-- Whether a character attaches to its neighbour.  The two half-width sound marks extend a
grapheme by the property and are letters all the same: each stands in a cell of its own. -/
def attaches (c : Char) : Bool :=
  GraphemeExtend.isGraphemeExtend c && c != '\uff9e' && c != '\uff9f'

/-- Whether a reader sees a character for what it is: it has a shape, and the shape is its own. -/
def isVisible (c : Char) : Bool :=
  Printable.isPrintable c && !DefaultIgnorable.isDefaultIgnorable c && !attaches c

/-- A character as a message shows it: the usual backslash forms for NUL, tab, carriage return,
newline, quotes and backslash, the character itself if it is visible, and its code point
otherwise. -/
def ofChar (c : Char) : String :=
  match c with
  | '\x00' => "\\0"
  | '\t' => "\\t"
  | '\r' => "\\r"
  | '\n' => "\\n"
  | '\'' => "\\'"
  | '"' => "\\\""
  | '\\' => "\\\\"
  | c => if isVisible c then .singleton c else codePoint c

end FrontEnd.Escaped
