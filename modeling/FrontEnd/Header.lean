/-
# FrontEnd.Header — the declaration that opens every source text.

A module header is an optional `pub`, the word `module`, the module's name and a semicolon.
-/
import FrontEnd.Span
import FrontEnd.Symbol

namespace FrontEnd

/-- A module header: whether the module is public, its name, and the stretch from the first word
through the semicolon. -/
structure Header where
  isPublic : Bool
  name : Symbol
  span : Span
  deriving DecidableEq, Repr

end FrontEnd
