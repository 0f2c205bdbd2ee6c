/-
# FrontEnd.Symbol.Table — the string table of one compilation.

The table keeps every distinct text once, in the order of first request; a text's position is its
handle.  It only grows, so a handle keeps its meaning for good.  `lookup` and `get` are each
other's inverse on what the table holds.
-/
import FrontEnd.Symbol
import FrontEnd.Symbol.Statistics

namespace FrontEnd.Symbol

/-- Distinct texts in order of first request, with the counts of requests. -/
structure Table where
  texts : Array String
  hits : Nat
  misses : Nat
  deriving DecidableEq, Repr, Inhabited

/-- Why a handle has no text. -/
inductive ResolveError where
  /-- The table never issued this handle; it holds `size` texts. -/
  | invalidHandle (handle : Symbol) (size : Nat)
  deriving DecidableEq, Repr

/-- The wording of a failed resolution. -/
def ResolveError.message : ResolveError → String
  | .invalidHandle handle size =>
    "invalid symbol handle " ++ toString handle.index ++ " (table holds " ++ toString size ++
      " strings)"

namespace Table

/-- The table of a compilation that has interned nothing. -/
def empty : Table := ⟨#[], 0, 0⟩

/-- The number of distinct texts. -/
def size (t : Table) : Nat := t.texts.size

/-- Whether nothing has been interned. -/
def isEmpty (t : Table) : Bool := t.texts.isEmpty

/-- The handle of a text the table holds. -/
def lookup (t : Table) (text : String) : Option Symbol :=
  (t.texts.idxOf? text).map Symbol.mk

/-- Whether the table holds a text. -/
def contains (t : Table) (text : String) : Bool := t.texts.contains text

/-- The text of a handle the table has issued. -/
def get (t : Table) (s : Symbol) : Option String := t.texts[s.index]?

/-- Whether the table has issued a handle. -/
def isValid (t : Table) (s : Symbol) : Bool := s.index < t.texts.size

/-- The text of a handle, empty when the table never issued it. -/
def resolve (t : Table) (s : Symbol) : String := (t.get s).getD ""

/-- The text of a handle, or the reason there is none. -/
def tryResolve (t : Table) (s : Symbol) : Except ResolveError String :=
  match t.get s with
  | some text => .ok text
  | none => .error (.invalidHandle s t.size)

/-- The handle of a text, whether the text is new, and the table that holds it.  A new text goes
to the end; one that is there stays where it is. -/
def internFull (t : Table) (text : String) : Symbol × Bool × Table :=
  match t.lookup text with
  | some s => (s, false, { t with hits := t.hits + 1 })
  | none =>
    (⟨t.texts.size⟩, true, { t with texts := t.texts.push text, misses := t.misses + 1 })

/-- The handle of a text, with the table that holds it. -/
def intern (t : Table) (text : String) : Symbol × Table :=
  let (s, _, t') := t.internFull text
  (s, t')

/-- Every text with its handle, in handle order. -/
def entries (t : Table) : List (Symbol × String) :=
  t.texts.toList.mapIdx fun i text => (⟨i⟩, text)

/-- The counts so far. -/
def statistics (t : Table) : Statistics := ⟨t.texts.size, t.hits, t.misses⟩

/-- The table after interning a list of texts in order. -/
def internAll (t : Table) (texts : List String) : Table :=
  texts.foldl (fun t text => (t.intern text).2) t

end Table

end FrontEnd.Symbol
