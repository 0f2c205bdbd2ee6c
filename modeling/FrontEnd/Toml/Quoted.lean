/-
# FrontEnd.Toml.Quoted — writing a text as a TOML string.

The plainest form that can hold the text wins: a basic string as it is, a literal string, the
same two over several lines, and only then a basic string with escapes.  Every character of a
text has a written form in each form that can hold it, so writing never fails.
-/

namespace FrontEnd.Toml.Quoted

/-- Control characters that no form holds as they are; tabs and newlines are none of them. -/
def needsEscape (c : Char) : Bool :=
  c != '\t' && c != '\n' && (c.toNat < 0x20 || c.toNat == 0x7F)

/-- The length of the longest run of a character. -/
def longestRun (quote : Char) (cs : List Char) : Nat :=
  (cs.foldl
    (fun (current, longest) c =>
      let current := if c = quote then current + 1 else 0
      (current, max longest current))
    (0, 0)).2

/-- The forms of a string. -/
inductive Style where
  | basic | literal | multiLineLiteral | multiLineBasic
  deriving DecidableEq, Repr

/-- The plainest form that can hold a text. -/
def styleOf (cs : List Char) : Style :=
  let escapes := cs.any needsEscape
  let backslash := cs.contains '\\'
  let newline := cs.contains '\n'
  let double := longestRun '"' cs
  let single := longestRun '\'' cs
  if !escapes && !backslash && double = 0 && !newline then .basic
  else if !escapes && single = 0 && !newline then .literal
  else if !escapes && !backslash && double ≤ 2 then .multiLineBasic
  else if !escapes && single ≤ 2 then .multiLineLiteral
  else if newline then .multiLineBasic
  else .basic

/-- Four hexadecimal digits in capitals. -/
def hex4 (n : Nat) : List Char :=
  let digits := (Nat.toDigits 16 n).map Char.toUpper
  List.replicate (4 - digits.length) '0' ++ digits

/-- The written form of a character other than a quote in a basic string. -/
def escapeChar (multiLine : Bool) (c : Char) : List Char :=
  match c with
  | '\x08' => ['\\', 'b']
  | '\t' => ['\\', 't']
  | '\n' => if multiLine then ['\n'] else ['\\', 'n']
  | '\x0c' => ['\\', 'f']
  | '\r' => ['\\', 'r']
  | '\\' => ['\\', '\\']
  | c => if needsEscape c then '\\' :: 'u' :: hex4 c.toNat else [c]

/-- The written form of a text in a basic string.  `quotes` counts the quotes just written as they
are; a run of more than `limit` of them is broken by an escaped one. -/
def escapeAll (multiLine : Bool) (limit : Nat) : Nat → List Char → List Char
  | _, [] => []
  | quotes, '"' :: cs =>
    if quotes < limit then '"' :: escapeAll multiLine limit (quotes + 1) cs
    else '\\' :: '"' :: escapeAll multiLine limit 0 cs
  | _, c :: cs => escapeChar multiLine c ++ escapeAll multiLine limit 0 cs

/-- A text as a TOML string.  Over several lines, a text with newlines starts on a line of its
own. -/
def write (text : String) : String :=
  let cs := text.toList
  let opening := if cs.contains '\n' then ['\n'] else []
  .ofList <|
    match styleOf cs with
    | .basic => ['"'] ++ escapeAll false 0 0 cs ++ ['"']
    | .literal => ['\''] ++ cs ++ ['\'']
    | .multiLineBasic => ['"', '"', '"'] ++ opening ++ escapeAll true 2 0 cs ++ ['"', '"', '"']
    | .multiLineLiteral => ['\'', '\'', '\''] ++ opening ++ cs ++ ['\'', '\'', '\'']

end FrontEnd.Toml.Quoted
