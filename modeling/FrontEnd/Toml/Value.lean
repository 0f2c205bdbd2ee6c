/-
# FrontEnd.Toml.Value — the values of a TOML document and how its tables grow.

A document is a table of named items.  Tables come to be in three ways, which decide what may be
added to them later: written out under a header, implied by a longer header, or implied by a
dotted key.  A table has one header at most, and dotted keys only ever grow tables that dotted
keys made.
-/

namespace FrontEnd.Toml

/-- How a table came to be. -/
inductive Form where
  | header
  | implied
  | dotted
  deriving DecidableEq, Repr

/-- A day of the calendar. -/
structure Date where
  year : Nat
  month : Nat
  day : Nat
  deriving DecidableEq, Repr

/-- A time of day; `fraction` has the decimal digits of a part of a second. -/
structure Time where
  hour : Nat
  minute : Nat
  second : Nat
  fraction : List Char
  deriving DecidableEq, Repr

/-- A day, a time of day, or both, and then perhaps how many minutes local time is ahead. -/
structure Moment where
  date : Option Date
  time : Option Time
  offset : Option Int
  deriving DecidableEq, Repr

/-- A float as it is written: digits times a power of ten, or one of the special values. -/
inductive Float where
  | decimal (negative : Bool) (digits : Nat) (exponent : Int)
  | infinity (negative : Bool)
  | notANumber (negative : Bool)
  deriving DecidableEq, Repr

/-- A value, a table, or the tables of one repeated header. -/
inductive Item where
  | text (value : String)
  | integer (value : Int)
  | float (value : Float)
  | boolean (value : Bool)
  | moment (value : Moment)
  | array (items : List Item)
  /-- A table in braces, to which nothing can be added. -/
  | inline (entries : List (String × Item))
  | table (form : Form) (entries : List (String × Item))
  | tables (elements : List (List (String × Item)))

/-- The named items of a table, in order of appearance. -/
abbrev Entries := List (String × Item)

namespace Entries

/-- Puts an item under a name that is already there. -/
def replace (entries : Entries) (name : String) (item : Item) : Entries :=
  entries.map fun e => if e.1 = name then (name, item) else e

/-- Puts an item under a new name. -/
def add? (entries : Entries) (name : String) (item : Item) : Option Entries :=
  match entries.lookup name with
  | some _ => none
  | none => some (entries ++ [(name, item)])

/-- Changes the table that a path leads to, starting from a table of the given form; names that
are missing on the way get tables of the form `new`.  A dotted key does not lead through a table
that has a header; a name of several tables leads to the last of them. -/
def update? (new : Form) (change : Form → Entries → Option Entries) :
    List String → Form → Entries → Option Entries
  | [], form, entries => change form entries
  | name :: path, _, entries =>
    match entries.lookup name with
    | none => do
      let inner ← update? new change path new []
      return entries ++ [(name, .table new inner)]
    | some (.table form inner) =>
      if new = .dotted ∧ form = .header then none
      else do
        let inner ← update? new change path form inner
        return entries.replace name (.table form inner)
    | some (.tables elements) => do
      let inner ← update? new change path .header (← elements.getLast?)
      return entries.replace name (.tables (elements.dropLast ++ [inner]))
    | some _ => none

/-- Adds an item under a dotted key, `path` being all of the key but its last name.  If there is
a path, it has to lead to a table that dotted keys made. -/
def assign? (path : List String) (name : String) (item : Item) (entries : Entries) :
    Option Entries :=
  update? .dotted
    (fun form entries => if path ≠ [] ∧ form ≠ .dotted then none else entries.add? name item)
    path .header entries

/-- Opens the table of a header, which must be new or merely implied by another header. -/
def openTable? (path : List String) (name : String) (entries : Entries) : Option Entries :=
  update? .implied
    (fun _ entries =>
      match entries.lookup name with
      | none => some (entries ++ [(name, .table .header [])])
      | some (.table .implied inner) => some (entries.replace name (.table .header inner))
      | some _ => none)
    path .header entries

/-- Opens one more table of a repeated header. -/
def openElement? (path : List String) (name : String) (entries : Entries) : Option Entries :=
  update? .implied
    (fun _ entries =>
      match entries.lookup name with
      | none => some (entries ++ [(name, .tables [[]])])
      | some (.tables elements) => some (entries.replace name (.tables (elements ++ [[]])))
      | some _ => none)
    path .header entries

end Entries

end FrontEnd.Toml
