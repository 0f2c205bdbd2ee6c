/-
# FrontEnd.Diagnostic.Code — stable codes of diagnostics.

A code is an area letter with a number.  Numbers below 100 belong to resources, those from 1001
to the scanner and those from 2001 to the header reader.
-/
import FrontEnd.Calendar

namespace FrontEnd.Diagnostic

/-- An area with a number in it. -/
structure Code where
  area : String
  number : Nat
  deriving DecidableEq, Repr

namespace Code

/-- The area followed by the number, the number with at least four digits. -/
def display (c : Code) : String := c.area ++ Calendar.padded 4 c.number

/-- A code as debugging output shows it. -/
def debug (c : Code) : String := "DiagnosticCode(" ++ c.display ++ ")"

/-! ## Resources -/

/-- Nothing exists at the path of a source file. -/
def sourceNotFound : Code := ⟨"E", 1⟩
/-- The path of a source file names no regular file. -/
def sourceNotAFile : Code := ⟨"E", 2⟩
/-- A source file cannot be read. -/
def sourceUnreadable : Code := ⟨"E", 3⟩

/-! ## Scanner -/

/-- A digit that the numeral's base does not have. -/
def invalidDigit : Code := ⟨"E", 1001⟩
/-- A hexadecimal mark without digits. -/
def missingHexDigits : Code := ⟨"E", 1002⟩
/-- A second point in a numeral. -/
def multiplePoints : Code := ⟨"E", 1003⟩
/-- A point in a hexadecimal numeral. -/
def hexFloat : Code := ⟨"E", 1004⟩
/-- A block comment that nothing closes. -/
def unterminatedComment : Code := ⟨"E", 1005⟩
/-- A string literal that its line does not close. -/
def unterminatedString : Code := ⟨"E", 1006⟩
/-- A backslash pair without a meaning. -/
def invalidEscape : Code := ⟨"E", 1007⟩
/-- A character that starts nothing. -/
def unexpectedChar : Code := ⟨"E", 1008⟩

/-! ## Header reader -/

/-- A token other than the one the grammar requires. -/
def expectedToken : Code := ⟨"E", 2002⟩

end Code

end FrontEnd.Diagnostic
