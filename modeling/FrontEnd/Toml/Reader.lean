/-
# FrontEnd.Toml.Reader — reading TOML text from front to back.

A reader takes something off the front of a text or fails; a choice tries its second reader where
the first one started.  This file has the readers for blanks, comments and line ends, and the
combinators that the readers of values are made of.
-/

namespace FrontEnd.Toml

/-- Takes something off the front of a text, if it is there. -/
abbrev Reader := StateT (List Char) Option

namespace Reader

/-- One character of a class. -/
def satisfy (p : Char → Bool) : Reader Char
  | c :: cs => if p c then some (c, cs) else none
  | [] => none

/-- This very character. -/
def char (c : Char) : Reader Unit := discard (satisfy (· == c))

/-- These characters in a row. -/
def word (cs : List Char) : Reader Unit := cs.forM char

/-- As many characters of a class as there are. -/
def run (p : Char → Bool) : Reader (List Char) := fun cs =>
  some (cs.takeWhile p, cs.dropWhile p)

/-- At least one character of a class. -/
def run1 (p : Char → Bool) : Reader (List Char) := do
  let c ← satisfy p
  let cs ← run p
  return c :: cs

/-- So many characters of a class. -/
def exactly (n : Nat) (p : Char → Bool) : Reader (List Char) :=
  (List.replicate n ()).mapM fun _ => satisfy p

/-- Something over and over, at most as often as `clock` has characters. -/
def manyWithin {α : Type} (p : Reader α) : List Char → Reader (List α)
  | [] => pure []
  | _ :: clock =>
    (do
      let a ← p
      let as ← manyWithin p clock
      return a :: as) <|> pure []

/-- Something over and over.  Each time takes at least one character, so the text itself says how
often is enough. -/
def many {α : Type} (p : Reader α) : Reader (List α) := fun cs => manyWithin p cs cs

/-- At least one of something, with a separator between each two. -/
def separated1 {α : Type} (p : Reader α) (separator : Reader Unit) : Reader (List α) := do
  let a ← p
  let as ← many (do separator; p)
  return a :: as

/-- Any number of something, with a separator between each two. -/
def separated {α : Type} (p : Reader α) (separator : Reader Unit) : Reader (List α) :=
  separated1 p separator <|> pure []

/-- Something, if it is there. -/
def maybe {α : Type} (p : Reader α) : Reader (Option α) := (some <$> p) <|> pure none

/-- Nothing is left. -/
def finish : Reader Unit
  | [] => some ((), [])
  | _ => none

/-! ## Blanks, comments and line ends -/

/-- Spaces and tabs. -/
def isBlank (c : Char) : Bool := c == ' ' || c == '\t'

/-- Characters that may stand in a comment: all but the controls, tab excepted. -/
def isCommentChar (c : Char) : Bool := c == '\t' || (c.toNat ≥ 0x20 && c.toNat ≠ 0x7F)

/-- Spaces and tabs, if there are any. -/
def blanks : Reader Unit := discard (run isBlank)

/-- The end of a line that is not the last: a newline, with or without a carriage return. -/
def newline : Reader Unit := char '\n' <|> word ['\r', '\n']

/-- The end of a line. -/
def lineEnd : Reader Unit := newline <|> finish

/-- A comment up to the end of its line. -/
def comment : Reader Unit := do
  char '#'
  discard (run isCommentChar)

/-- What may follow a statement on its line. -/
def lineTrailing : Reader Unit := do
  blanks
  discard (maybe comment)
  lineEnd

/-- What may stand around the values of an array: blanks, comments and line ends. -/
def filler : Reader Unit :=
  discard (many (discard (run1 isBlank) <|> newline <|> (do comment; newline)))

end Reader

end FrontEnd.Toml
