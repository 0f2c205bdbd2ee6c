/-
# FrontEnd.Symbol.Statistics — how often interning found a text it already had.
-/

namespace FrontEnd.Symbol

/-- Counts over the life of a string table: distinct texts, requests for a text it held, and
requests that stored a new one. -/
structure Statistics where
  count : Nat
  hits : Nat
  misses : Nat
  deriving DecidableEq, Repr, Inhabited

/-- The number of interning requests. -/
def Statistics.total (s : Statistics) : Nat := s.hits + s.misses

/-- The share of requests that found their text; zero before the first request. -/
def Statistics.hitRate (s : Statistics) : Float :=
  if s.total = 0 then 0.0 else Float.ofNat s.hits / Float.ofNat s.total

end FrontEnd.Symbol
