/-
# FrontEnd.Proofs.Cursor.Operation — cursor operations in any number and order.

Whatever is asked of a cursor, it passes over some of the text in front of it, or over none
(`passes_perform`).  So wherever operations take a cursor that was set in front of a text, it is
still coherent, and a coherent cursor knows exactly where it is: its offset lies between characters,
its line and column are those of that offset, and what it holds as unconsumed text is what stands
behind that offset.
-/
import FrontEnd.Proofs.Cursor
import FrontEnd.Proofs.Place.Locate

namespace FrontEnd.Cursor

/-! ## A coherent cursor and its source -/

/-- The cursor stands at a byte offset of the source between two characters, with the line and
column of that offset and the text behind it.  The later cursor stands there or further on, and the
text from the one to the other can be cut out. -/
structure Exact (source : String) (c c' : Cursor) : Prop where
  source_eq : c.source = source
  offset_le : c.place.offset ≤ source.utf8ByteSize
  isValid : (⟨c.place.offset⟩ : String.Pos.Raw).IsValid source
  located : Place.at? source.toList c.place.offset = some c.place
  remaining : Utf8.drop? c.place.offset source.toList = some c.remaining.toList
  forward : c.place.offset ≤ c'.place.offset
  slice : ∃ text, c'.sliceFrom? c.place.offset = some text ∧
    c.remaining = text ++ c'.remaining

/-- What is passed over can be cut out from behind. -/
theorem Coherent.sliceFrom?_eq {c c' : Cursor} {text : List Char} (h : c.Coherent)
    (hpasses : c.Passes text c') : c'.sliceFrom? c.place.offset = some (.ofList text) := by
  obtain ⟨before, hsource, hoffset⟩ := h.exists_before
  have hsource' : c'.source.toList = before ++ text ++ c'.rest := by
    rw [hpasses.source, hsource, hpasses.rest, List.append_assoc]
  rw [sliceFrom?, hsource', hpasses.offset_eq, hoffset, Utf8.slice?_append]
  rfl

/-- A coherent cursor knows exactly where it is, and what it passes over can be cut out later. -/
theorem Coherent.exact {c c' : Cursor} {text : List Char} (h : c.Coherent)
    (hpasses : c.Passes text c') : Exact c.source c c' := by
  constructor
  case source_eq => rfl
  case offset_le =>
    rw [← h.offset_add_size]
    exact Nat.le_add_right _ _
  case isValid =>
    obtain ⟨before, hsource, hoffset⟩ := h.exists_before
    rw [hoffset]
    exact Utf8.isValid_of_append hsource
  case located =>
    obtain ⟨before, hsource, hplace⟩ := h
    rw [hplace]
    exact Place.at?_after hsource
  case remaining =>
    obtain ⟨before, hsource, hoffset⟩ := h.exists_before
    rw [hsource, hoffset, Cursor.remaining, String.toList_ofList]
    exact Utf8.drop?_size_append before c.rest
  case forward => exact hpasses.offset_le
  case slice =>
    refine ⟨.ofList text, h.sliceFrom?_eq hpasses, ?_⟩
    rw [Cursor.remaining, Cursor.remaining, hpasses.rest, String.ofList_append]

/-! ## Operations -/

/-- What can be asked of a cursor; all but the last four only look. -/
inductive Operation where
  | peek (n : Nat)
  | first
  | hasNext (n : Nat)
  | lookahead (n : Nat)
  | sliceFrom (start : Nat)
  | remaining
  | point
  | advance
  | advanceBy (n : Nat)
  | eat (expected : Char)
  | eatWhile (p : Char → Bool)

/-- The cursor behind an operation. -/
def perform (c : Cursor) : Operation → Cursor
  | .peek _ | .first | .hasNext _ | .lookahead _ | .sliceFrom _ | .remaining | .point => c
  | .advance => (c.advance?.map Prod.snd).getD c
  | .advanceBy n => c.advanceBy n
  | .eat expected => (c.eat expected).2
  | .eatWhile p => c.eatWhile p

/-- The cursor behind a list of operations. -/
def performAll (c : Cursor) (ops : List Operation) : Cursor := ops.foldl perform c

theorem perform_advance (c : Cursor) : c.perform .advance = c.advanceBy 1 := by
  rw [perform, advanceBy]
  cases c.advance? with
  | none => rfl
  | some step => rfl

/-- An operation passes over text, if only over none. -/
theorem passes_perform (c : Cursor) (op : Operation) : ∃ text, c.Passes text (c.perform op) := by
  cases op with
  | advance =>
    rw [perform_advance]
    exact ⟨_, c.passes_advanceBy 1⟩
  | advanceBy n => exact ⟨_, c.passes_advanceBy n⟩
  | eat expected =>
    rw [perform, eat]
    split
    · exact ⟨_, c.passes_advanceBy 1⟩
    · exact ⟨[], .refl c⟩
  | eatWhile p => exact ⟨_, c.passes_eatWhile p⟩
  | _ => exact ⟨[], .refl c⟩

theorem passes_performAll (c : Cursor) (ops : List Operation) :
    ∃ text, c.Passes text (c.performAll ops) := by
  induction ops generalizing c with
  | nil => exact ⟨[], .refl c⟩
  | cons op ops ih =>
    obtain ⟨text, htext⟩ := c.passes_perform op
    obtain ⟨more, hmore⟩ := ih (c.perform op)
    exact ⟨text ++ more, htext.trans hmore⟩

theorem coherent_performAll (source : String) (ops : List Operation) :
    ((ofString source).performAll ops).Coherent := by
  obtain ⟨text, htext⟩ := (ofString source).passes_performAll ops
  exact (coherent_ofString source).of_passes htext

/-- Wherever operations take a cursor that was set in front of a text, it knows exactly where it
is, whatever operations follow. -/
theorem exact_performAll (source : String) (ops more : List Operation) :
    Exact source ((ofString source).performAll ops)
      ((ofString source).performAll (ops ++ more)) := by
  have hcoherent := coherent_performAll source ops
  obtain ⟨passed, hpassed⟩ := (ofString source).passes_performAll ops
  obtain ⟨text, htext⟩ := ((ofString source).performAll ops).passes_performAll more
  have hsource : ((ofString source).performAll ops).source = source := hpassed.source
  have hexact := hcoherent.exact htext
  rw [hsource, performAll, performAll, ← List.foldl_append] at hexact
  exact hexact

end FrontEnd.Cursor
