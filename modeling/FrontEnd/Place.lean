/-
# FrontEnd.Place — where a character stands in a source text.

A place is a byte offset together with the zero-based line and column, both counted in
characters.  It is a running total: `Place.step` says what one character adds, and `Place.after`
sums a text from a given place on.
-/
import FrontEnd.Text.Utf8

namespace FrontEnd

/-- A byte offset with its zero-based line and column. -/
structure Place where
  offset : Nat
  line : Nat
  column : Nat
  deriving DecidableEq, Repr, Inhabited

namespace Place

/-- The place of the first character of a text. -/
def origin : Place := ⟨0, 0, 0⟩

/-- The place behind one character: a newline opens the next line, any other character moves one
column on. -/
def step (p : Place) (c : Char) : Place :=
  if c = '\n' then ⟨p.offset + c.utf8Size, p.line + 1, 0⟩
  else ⟨p.offset + c.utf8Size, p.line, p.column + 1⟩

/-- The place behind a whole text that starts at `p`. -/
def after (p : Place) (cs : List Char) : Place :=
  cs.foldl step p

@[simp]
theorem after_nil (p : Place) : p.after [] = p := rfl

@[simp]
theorem after_cons (p : Place) (c : Char) (cs : List Char) :
    p.after (c :: cs) = (p.step c).after cs := rfl

theorem after_append (p : Place) (a b : List Char) :
    p.after (a ++ b) = (p.after a).after b :=
  List.foldl_append

@[simp]
theorem offset_step (p : Place) (c : Char) : (p.step c).offset = p.offset + c.utf8Size := by
  unfold step
  split <;> rfl

/-- Offsets count bytes, whatever the lines are. -/
theorem offset_after (p : Place) (cs : List Char) :
    (p.after cs).offset = p.offset + Utf8.size cs := by
  induction cs generalizing p with
  | nil => rfl
  | cons c cs ih => simp [ih, Nat.add_assoc]

end Place

end FrontEnd
