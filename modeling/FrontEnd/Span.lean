/-
# FrontEnd.Span — the stretch of source text that a token or a report covers.

A span is a byte range together with the zero-based line and column of its first character.
Spans are plain data: nothing forces a range to be in order, and a range written backwards
counts as empty.
-/
import FrontEnd.Place

namespace FrontEnd

/-- The bytes from `start` up to `stop`, the first of them at `line` and `column`. -/
structure Span where
  start : Nat
  stop : Nat
  line : Nat
  column : Nat
  deriving DecidableEq, Repr, Inhabited

namespace Span

/-- The span that stands for no place in particular. -/
def nowhere : Span := ⟨0, 0, 0, 0⟩

/-- The empty span at an offset. -/
def point (offset line column : Nat) : Span := ⟨offset, offset, line, column⟩

/-- The empty span at a place. -/
def atPlace (p : Place) : Span := point p.offset p.line p.column

/-- The span from one place up to another. -/
def between (p q : Place) : Span := ⟨p.offset, q.offset, p.line, p.column⟩

/-- The number of bytes covered; none when the range is written backwards. -/
def length (s : Span) : Nat := s.stop - s.start

/-- Whether no byte is covered. -/
def isEmpty (s : Span) : Bool := s.length == 0

/-- The least span that covers both.  It takes line and column of the one that starts first, of
the left one when they start together. -/
def join (a b : Span) : Span :=
  let first := if a.start ≤ b.start then a else b
  ⟨min a.start b.start, max a.stop b.stop, first.line, first.column⟩

/-- Line and column as editors count them, from one. -/
def display (s : Span) : String :=
  toString (s.line + 1) ++ ":" ++ toString (s.column + 1)

/-- Of two spans in order, the least span that covers both goes from the start of the first to the
end of the second. -/
theorem join_of_le {a b : Span} (hstart : a.start ≤ b.start) (hstop : a.stop ≤ b.stop) :
    a.join b = ⟨a.start, b.stop, a.line, a.column⟩ := by
  rw [join, if_pos hstart, Nat.min_eq_left hstart, Nat.max_eq_right hstop]

end Span

end FrontEnd
