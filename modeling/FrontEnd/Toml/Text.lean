/-
# FrontEnd.Toml.Text — TOML strings and keys.

There are four forms of string.  Basic strings, in double quotes, know escapes; literal strings,
in single quotes, do not.  Both have a form in tripled quotes that may run over several lines; a
line end right behind the opening quotes does not count, and up to two quotes may stand in front
of the closing ones.
-/
import FrontEnd.Toml.Reader

namespace FrontEnd.Toml.Text

open Reader

/-- Characters that stand for themselves in a basic string. -/
def isBasicChar (c : Char) : Bool := isCommentChar c && c != '"' && c != '\\'

/-- Characters that stand for themselves in a literal string. -/
def isLiteralChar (c : Char) : Bool := isCommentChar c && c != '\''

/-- Digits and letters of hexadecimal numbers. -/
def isHexDigit (c : Char) : Bool :=
  c.isDigit || ('a' ≤ c && c ≤ 'f') || ('A' ≤ c && c ≤ 'F')

/-- The value of a digit or letter as a digit. -/
def digitValue (c : Char) : Nat :=
  if c.isDigit then c.toNat - '0'.toNat
  else if c.isUpper then c.toNat - 'A'.toNat + 10
  else c.toNat - 'a'.toNat + 10

/-- The number that digits of a base write. -/
def number (base : Nat) (digits : List Char) : Nat :=
  digits.foldl (fun n c => n * base + digitValue c) 0

/-- The character of a code point, which must not be a surrogate. -/
def codePoint (n : Nat) : Reader Char :=
  if n.isValidChar then pure (Char.ofNat n) else failure

/-- A backslash with what it escapes. -/
def escape : Reader Char := do
  char '\\'
  match ← satisfy fun _ => true with
  | 'b' => return '\x08'
  | 't' => return '\t'
  | 'n' => return '\n'
  | 'f' => return '\x0c'
  | 'r' => return '\r'
  | '"' => return '"'
  | '\\' => return '\\'
  | 'u' => codePoint (number 16 (← exactly 4 isHexDigit))
  | 'U' => codePoint (number 16 (← exactly 8 isHexDigit))
  | _ => failure

/-- A string in double quotes. -/
def basic : Reader String := do
  char '"'
  let cs ← many (satisfy isBasicChar <|> escape)
  char '"'
  return .ofList cs

/-- A string in single quotes. -/
def literal : Reader String := do
  char '\''
  let cs ← run isLiteralChar
  char '\''
  return .ofList cs

/-- A backslash at the end of a line takes all blanks and line ends behind it along. -/
def lineEscape : Reader (List Char) := do
  char '\\'
  blanks
  newline
  discard (many (discard (run1 isBlank) <|> newline))
  return []

/-- A line end inside a string. -/
def innerNewline : Reader (List Char) := do
  newline
  return ['\n']

/-- One or two quotes in front of something else. -/
def innerQuotes (quote : Char) (after : Reader Unit) : Reader (List Char) := fun cs =>
  let attempt (n : Nat) : Option (List Char × List Char) := do
    let ((), rest) ← word (List.replicate n quote) cs
    let _ ← after rest
    return (List.replicate n quote, rest)
  attempt 2 <|> attempt 1

/-- A string in tripled quotes; `content` takes one piece of what may stand in it. -/
def multiLine (quote : Char) (content : Reader (List Char)) : Reader String := do
  let fence := word (List.replicate 3 quote)
  fence
  discard (maybe newline)
  let pieces ← many (content <|> innerQuotes quote (discard content))
  let last ← maybe (innerQuotes quote fence)
  fence
  return .ofList (pieces.flatten ++ last.getD [])

/-- A string of either kind that may run over several lines. -/
def multiLineBasic : Reader String :=
  multiLine '"' (run1 isBasicChar <|> lineEscape <|> (do return [← escape]) <|> innerNewline)

def multiLineLiteral : Reader String :=
  multiLine '\'' (run1 isLiteralChar <|> innerNewline)

/-- A string in any of the four forms. -/
def string : Reader String := multiLineBasic <|> basic <|> multiLineLiteral <|> literal

/-- Characters of names without quotes. -/
def isBareKeyChar (c : Char) : Bool := c.isAlphanum || c == '_' || c == '-'

/-- One name of a key. -/
def simpleKey : Reader String := basic <|> literal <|> (String.ofList <$> run1 isBareKeyChar)

/-- How many names a dotted key may have. -/
def longestKey : Nat := 79

/-- The names of a dotted key, blanks around each of them allowed. -/
def key : Reader (List String) := do
  let names ← separated1 (do blanks; let name ← simpleKey; blanks; return name) (char '.')
  if names.length ≤ longestKey then return names else failure

end FrontEnd.Toml.Text
