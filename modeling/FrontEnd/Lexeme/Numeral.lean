/-
# FrontEnd.Lexeme.Numeral — which runs of numeral characters are numerals.

A numeral is taken as one run and judged as a whole, so a run with a stray letter or a second
point is one bad numeral and not several tokens.  A leading zero with an x means hexadecimal, a
leading zero with anything but a point behind it octal, all else decimal.  One point makes a
numeral a float, and what follows the point is decimal whatever came before.
-/
import FrontEnd.Lexeme.Error
import FrontEnd.Token.Kind

namespace FrontEnd.Numeral

/-- Reads digits of `base` up to the end of the run; `pointSeen` tells whether the point has gone
by.  The first character that cannot go on decides the error. -/
def readDigits (base : Base) (pointSeen : Bool) : List Char → Except LexicalError Literal
  | [] => .ok (if pointSeen then .float else .int)
  | c :: cs =>
    if c = '.' then
      if base = .hexadecimal then .error .hexFloat
      else if pointSeen then .error .multiplePoints
      else readDigits .decimal true cs
    else if base.accepts c then readDigits base pointSeen cs
    else .error (.invalidDigit c base)

/-- The digits behind a hexadecimal mark, of which there is at least one. -/
def readHexadecimal : List Char → Except LexicalError Literal
  | [] => .error .missingHexDigits
  | cs => readDigits .hexadecimal false cs

/-- The family of a numeral, or the first thing wrong with it. -/
def classify : List Char → Except LexicalError Literal
  | '0' :: 'x' :: cs => readHexadecimal cs
  | '0' :: 'X' :: cs => readHexadecimal cs
  | '0' :: '.' :: cs => readDigits .decimal false ('0' :: '.' :: cs)
  | '0' :: cs => readDigits .octal false cs
  | cs => readDigits .decimal false cs

end FrontEnd.Numeral
