/-
# FrontEnd.Lexeme.Quoted — the inside of a string literal.

A string literal ends at the first quote that is not the second half of a backslash pair, and it
never leaves its line.  Reading goes on behind an unknown pair, so that the whole literal is
skipped and only the first such pair is reported.
-/

namespace FrontEnd.Quoted

/-- The character a backslash pair stands for. -/
def unescape? : Char → Option Char
  | 'n' => some '\n'
  | 't' => some '\t'
  | 'r' => some '\r'
  | '0' => some '\x00'
  | '\\' => some '\\'
  | '"' => some '"'
  | _ => none

/-- What stands behind an opening quote. -/
structure Body where
  /-- The characters that belong to the literal, a closing quote included. -/
  text : List Char
  /-- The characters meant, with each known pair replaced. -/
  value : List Char
  /-- The second half of the first unknown pair. -/
  badEscape : Option Char
  /-- Whether a closing quote was found on the line. -/
  closed : Bool
  deriving DecidableEq, Repr

namespace Body

/-- Nothing more on this line. -/
def unclosed : Body := ⟨[], [], none, false⟩

/-- The closing quote. -/
def closing : Body := ⟨['"'], [], none, true⟩

/-- Puts a plain character in front. -/
def plain (c : Char) (b : Body) : Body := { b with text := c :: b.text, value := c :: b.value }

/-- Puts a backslash pair in front. -/
def pair (c : Char) (b : Body) : Body :=
  match unescape? c with
  | some v => { b with text := '\\' :: c :: b.text, value := v :: b.value }
  | none => { b with text := '\\' :: c :: b.text, badEscape := some c }

/-- Puts a backslash in front that the end of the line leaves alone. -/
def loneBackslash (b : Body) : Body := { b with text := '\\' :: b.text }

end Body

/-- Reads what stands behind an opening quote, up to the closing quote or the end of the line. -/
def read : List Char → Body
  | [] => .unclosed
  | '\n' :: _ => .unclosed
  | '"' :: _ => .closing
  | ['\\'] => .loneBackslash .unclosed
  | '\\' :: '\n' :: _ => .loneBackslash .unclosed
  | '\\' :: c :: cs => .pair c (read cs)
  | c :: cs => .plain c (read cs)

end FrontEnd.Quoted
