/-
# FrontEnd.Symbol — handles of interned texts.

A symbol is the number of a text in the string table that issued it, and means nothing without
that table.  Number zero is an ordinary handle; where a handle may be missing, it is an option.
-/

namespace FrontEnd

/-- The handle of a text in a string table. -/
structure Symbol where
  index : Nat
  deriving DecidableEq, Repr, Inhabited

/-- A handle as debugging output shows it. -/
def Symbol.debug (s : Symbol) : String := "Symbol(" ++ toString s.index ++ ")"

end FrontEnd
