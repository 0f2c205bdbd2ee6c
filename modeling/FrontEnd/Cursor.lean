/-
# FrontEnd.Cursor — reading a source text from front to back.

A cursor holds the whole text, the characters it has not consumed yet, and the place of the first
of them.  Looking never moves it; consuming only ever moves it forward.  `peek` answers from the
bytes of the text when the characters up to the one asked for are ASCII, and counts characters
otherwise; every other operation works on the unconsumed characters.
-/
import FrontEnd.Span
import FrontEnd.Text.Utf8

namespace FrontEnd

/-- A position in a source text, with what is left to read. -/
structure Cursor where
  source : String
  rest : List Char
  place : Place
  deriving Repr, Inhabited

namespace Cursor

/-- The cursor in front of a text. -/
def ofString (source : String) : Cursor := ⟨source, source.toList, .origin⟩

/-- The cursor over no text at all. -/
def empty : Cursor := ofString ""

/-! ## Looking -/

/-- Whether every byte of the text has been consumed. -/
def isAtEnd (c : Cursor) : Bool := c.place.offset ≥ c.source.utf8ByteSize

/-- The character `n` characters ahead.  While all bytes up to that one are ASCII, characters and
bytes count alike and the byte is the answer. -/
def peek (c : Cursor) (n : Nat) : Option Char :=
  if Utf8.isAsciiRun c.source c.place.offset (n + 1) then
    (Utf8.byte? c.source (c.place.offset + n)).map Char.ofUInt8
  else
    c.rest[n]?

/-- The next character. -/
def first (c : Cursor) : Option Char := c.peek 0

/-- Whether there is a character `n` characters ahead. -/
def hasNext (c : Cursor) (n : Nat) : Bool := (c.peek n).isSome

/-- The next `n` characters, present when that many are left. -/
def lookahead (c : Cursor) (n : Nat) : Option (List Char) :=
  let ahead := c.rest.take n
  if ahead.length = n then some ahead else none

/-- The unconsumed text. -/
def remaining (c : Cursor) : String := .ofList c.rest

/-- The text from a byte offset up to the cursor.  There is none when the offset lies behind the
cursor's place or inside a character. -/
def sliceFrom? (c : Cursor) (start : Nat) : Option String :=
  (Utf8.slice? c.source.toList start c.place.offset).map String.ofList

/-- The empty span at the cursor. -/
def point (c : Cursor) : Span := .atPlace c.place

/-! ## Consuming -/

/-- Consumes one character and hands it over; at the end there is none. -/
def advance? (c : Cursor) : Option (Char × Cursor) :=
  match c.rest with
  | [] => none
  | ch :: rest => some (ch, { c with rest := rest, place := c.place.step ch })

/-- Consumes `n` characters, or as many as are left. -/
def advanceBy (c : Cursor) : Nat → Cursor
  | 0 => c
  | n + 1 =>
    match c.advance? with
    | some (_, next) => next.advanceBy n
    | none => c

/-- Consumes the next character if it is `expected`. -/
def eat (c : Cursor) (expected : Char) : Bool × Cursor :=
  if c.first = some expected then (true, c.advanceBy 1) else (false, c)

/-- Consumes characters as long as they satisfy `p`. -/
def eatWhile (c : Cursor) (p : Char → Bool) : Cursor :=
  { c with rest := c.rest.dropWhile p, place := c.place.after (c.rest.takeWhile p) }

/-! ## What consuming does to the unconsumed text -/

/-- Consuming one at a time comes to a cut of the unconsumed text. -/
theorem advanceBy_eq (c : Cursor) (n : Nat) :
    c.advanceBy n = { c with rest := c.rest.drop n, place := c.place.after (c.rest.take n) } := by
  induction n generalizing c with
  | zero => rfl
  | succ n ih =>
    obtain ⟨source, rest, place⟩ := c
    cases rest with
    | nil => rfl
    | cons ch rest => simp [advanceBy, advance?, ih]

@[simp]
theorem rest_advanceBy (c : Cursor) (n : Nat) : (c.advanceBy n).rest = c.rest.drop n := by
  rw [advanceBy_eq]

@[simp]
theorem rest_eatWhile (c : Cursor) (p : Char → Bool) :
    (c.eatWhile p).rest = c.rest.dropWhile p := rfl

end Cursor

end FrontEnd
