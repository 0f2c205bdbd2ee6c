/-
# FrontEnd.Lexeme.Error — what can be wrong with a piece of source text.

Each malformed piece of text has one cause.  None of them stops the scanner: the piece is
reported and skipped.
-/
import FrontEnd.Diagnostic.Code
import FrontEnd.Lexeme.Base
import FrontEnd.Text.Escaped

namespace FrontEnd

/-- Why a piece of source text is no token. -/
inductive LexicalError where
  /-- A digit or letter that the numeral's base does not have. -/
  | invalidDigit (digit : Char) (base : Base)
  /-- A hexadecimal mark with nothing behind it. -/
  | missingHexDigits
  /-- A second point in one numeral. -/
  | multiplePoints
  /-- A point in a hexadecimal numeral. -/
  | hexFloat
  /-- The text ran out inside a block comment. -/
  | unterminatedComment
  /-- The line or the text ran out inside a string literal. -/
  | unterminatedString
  /-- A backslash in front of a character that has no escaped meaning. -/
  | invalidEscape (escaped : Char)
  /-- A character that starts no token. -/
  | unexpectedChar (c : Char)
  deriving DecidableEq, Repr

namespace LexicalError

/-- The wording of an error, without its position. -/
def message : LexicalError → String
  | .invalidDigit digit base =>
    "invalid digit '" ++ .singleton digit ++ "' in " ++ base.name ++ " literal"
  | .missingHexDigits => "hexadecimal literal has no digits"
  | .multiplePoints => "numeric literal has more than one decimal point"
  | .hexFloat => "hexadecimal literal cannot have a decimal point"
  | .unterminatedComment => "unterminated block comment"
  | .unterminatedString => "unterminated string literal"
  | .invalidEscape escaped => "invalid escape sequence '\\" ++ .singleton escaped ++ "'"
  | .unexpectedChar c => "unexpected character '" ++ Escaped.ofChar c ++ "'"

/-- The code an error is reported under. -/
def code : LexicalError → Diagnostic.Code
  | .invalidDigit _ _ => .invalidDigit
  | .missingHexDigits => .missingHexDigits
  | .multiplePoints => .multiplePoints
  | .hexFloat => .hexFloat
  | .unterminatedComment => .unterminatedComment
  | .unterminatedString => .unterminatedString
  | .invalidEscape _ => .invalidEscape
  | .unexpectedChar _ => .unexpectedChar

end LexicalError

end FrontEnd
