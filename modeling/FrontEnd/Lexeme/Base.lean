/-
# FrontEnd.Lexeme.Base — the bases numerals are written in.
-/

namespace FrontEnd

/-- The base of a numeral. -/
inductive Base where
  /-- Written with a leading zero. -/
  | octal
  | decimal
  /-- Written with a leading zero and an x. -/
  | hexadecimal
  deriving DecidableEq, Repr

namespace Base

/-- How many digits a base has. -/
def radix : Base → Nat
  | .octal => 8
  | .decimal => 10
  | .hexadecimal => 16

/-- The value of an ASCII digit or letter as a digit, letters of either case counting from ten. -/
def digitValue? (c : Char) : Option Nat :=
  if c.isDigit then some (c.toNat - '0'.toNat)
  else if c.isLower then some (c.toNat - 'a'.toNat + 10)
  else if c.isUpper then some (c.toNat - 'A'.toNat + 10)
  else none

/-- Whether a character is a digit of this base. -/
def accepts (b : Base) (c : Char) : Bool :=
  match digitValue? c with
  | some v => v < b.radix
  | none => false

/-- The word for a base. -/
def name : Base → String
  | .octal => "octal"
  | .decimal => "decimal"
  | .hexadecimal => "hexadecimal"

end Base

end FrontEnd
