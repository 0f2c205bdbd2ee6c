/-
# FrontEnd.Symbol.Shared — one string table behind many handles.

Every holder of a shared table sees the same texts.  Interning is made of two steps, and other
holders may act between them: `probe` looks the text up while others may look too, and only when
it is missing does `store` intern it, alone.  A probe that finds its text counts as no request.
-/
import FrontEnd.Symbol.Table

namespace FrontEnd.Symbol

/-- A string table that several holders use in turn. -/
structure SharedTable where
  table : Table
  deriving DecidableEq, Repr, Inhabited

namespace SharedTable

/-- A shared table that holds nothing. -/
def empty : SharedTable := ⟨.empty⟩

/-- The reading step of interning. -/
def probe (s : SharedTable) (text : String) : Option Symbol := s.table.lookup text

/-- The writing step of interning.  It looks again, because another holder may have stored the
text since the probe. -/
def store (s : SharedTable) (text : String) : Symbol × SharedTable :=
  let (symbol, table) := s.table.intern text
  (symbol, ⟨table⟩)

/-- Both steps with nothing between them. -/
def intern (s : SharedTable) (text : String) : Symbol × SharedTable :=
  match s.probe text with
  | some symbol => (symbol, s)
  | none => s.store text

end SharedTable

end FrontEnd.Symbol
