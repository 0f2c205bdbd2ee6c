/-
# FrontEnd.Toml.Document — reading a whole TOML document.

A document is a sequence of lines: headers, which open a table, and assignments, which fill the
table opened last.  It is read in full before any of its tables is built.
-/
import FrontEnd.Toml.Moment
import FrontEnd.Toml.Number

namespace FrontEnd.Toml

open Reader

/-! ## Values -/

/-- A value that holds no other. -/
def scalar : Reader Item :=
  (.text <$> Text.string) <|>
    (do
      word ['t', 'r', 'u', 'e']
      return .boolean true) <|>
    (do
      word ['f', 'a', 'l', 's', 'e']
      return .boolean false) <|>
    (.moment <$> Moment.readMoment) <|> Number.number

/-- Values in brackets, a comma behind the last of them allowed. -/
def array (item : Reader Item) : Reader Item := do
  char '['
  let items ← separated (do filler; let i ← item; filler; return i) (char ',')
  if items.isEmpty then pure () else discard (maybe (char ','))
  filler
  char ']'
  return .array items

/-- A key with its value; the last name of the key comes apart from the others. -/
def assignment (item : Reader Item) : Reader (List String × String × Item) := do
  let names ← Text.key
  char '='
  blanks
  let i ← item
  match names.getLast? with
  | some name => return (names.dropLast, name, i)
  | none => failure

/-- Assignments in braces. -/
def inlineTable (item : Reader Item) : Reader Item := do
  char '\x7b'
  let assignments ←
    separated (do let a ← assignment item; blanks; return a) (char ',')
  blanks
  char '\x7d'
  match assignments.foldlM (fun entries (path, name, i) => Entries.assign? path name i entries) []
      with
  | some entries => return .inline entries
  | none => failure

/-- A value that holds others at most `depth` deep. -/
def value : Nat → Reader Item
  | 0 => scalar
  | depth + 1 => scalar <|> array (value depth) <|> inlineTable (value depth)

/-- How deep values may hold others. -/
def deepest : Nat := 79

/-! ## Lines -/

/-- What a line says. -/
inductive Line where
  | nothing
  | assign (path : List String) (name : String) (item : Item)
  | header (path : List String) (name : String)
  | repeatedHeader (path : List String) (name : String)

/-- A header between marks. -/
def headerBetween (opening closing : List Char) (make : List String → String → Line) :
    Reader Line := do
  word opening
  let names ← Text.key
  word closing
  lineTrailing
  match names.getLast? with
  | some name => return make names.dropLast name
  | none => failure

/-- One line. -/
def line : Reader Line :=
  (do
    newline
    return .nothing) <|>
  (do
    comment
    lineEnd
    return .nothing) <|>
  headerBetween ['[', '['] [']', ']'] .repeatedHeader <|>
  headerBetween ['['] [']'] .header <|>
  (do
    let (path, name, item) ← assignment (value deepest)
    lineTrailing
    return .assign path name item)

/-- All lines of a document, behind a byte order mark if there is one. -/
def lines : Reader (List Line) := do
  discard (maybe (char '\ufeff'))
  blanks
  let ls ← many (do let l ← line; blanks; return l)
  finish
  return ls

/-! ## Tables -/

/-- A document under construction: the tables so far, and the names that lead to the one opened
last. -/
structure Draft where
  root : Entries
  current : List String

/-- Adds what a line says. -/
def Draft.extend (d : Draft) : Line → Option Draft
  | .nothing => some d
  | .assign path name item => do
    let root ←
      Entries.update? .implied (fun _ entries => Entries.assign? path name item entries)
        d.current .header d.root
    return { d with root := root }
  | .header path name => do
    return ⟨← d.root.openTable? path name, path ++ [name]⟩
  | .repeatedHeader path name => do
    return ⟨← d.root.openElement? path name, path ++ [name]⟩

/-- The table that a text writes, if it is a TOML document. -/
def parse (text : String) : Option Entries := do
  let (ls, _) ← lines text.toList
  let draft ← ls.foldlM Draft.extend ⟨[], []⟩
  return draft.root

end FrontEnd.Toml
