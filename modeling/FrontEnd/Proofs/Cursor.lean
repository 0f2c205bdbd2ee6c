/-
# FrontEnd.Proofs.Cursor — a cursor moves forward and knows where it stands.

Whatever consumes text passes over the front of what is left and leaves the text itself alone
(`Passes`).  So a cursor that was set in front of a text and has only moved forward since stands at
the place that the characters it has passed lead to (`Coherent`), and once nothing is left it
stands at the end of its text (`Coherent.offset_eq`).
-/
import FrontEnd.Cursor
import FrontEnd.Proofs.Text.Slice

namespace FrontEnd.Cursor

/-- The later cursor has consumed `text`, and nothing else has changed. -/
structure Passes (c : Cursor) (text : List Char) (c' : Cursor) : Prop where
  source : c'.source = c.source
  rest : c.rest = text ++ c'.rest
  place : c'.place = c.place.after text

section

variable {c c' c'' : Cursor} {text more : List Char}

theorem Passes.refl (c : Cursor) : c.Passes [] c := ⟨rfl, rfl, rfl⟩

theorem Passes.trans (h : c.Passes text c') (h' : c'.Passes more c'') :
    c.Passes (text ++ more) c'' := by
  refine ⟨h'.source.trans h.source, ?_, ?_⟩
  · rw [h.rest, h'.rest, List.append_assoc]
  · rw [h'.place, h.place, Place.after_append]

/-- What is left is what stood behind the text that was consumed. -/
theorem Passes.rest_eq {rest : List Char} (h : c.Passes text c') (hrest : c.rest = text ++ rest) :
    c'.rest = rest :=
  List.append_cancel_left (h.rest.symm.trans hrest)

/-- Where a cursor is that has passed a text depends on that text alone. -/
theorem Passes.unique (h : c.Passes text c') (h' : c.Passes text c'') : c' = c'' := by
  obtain ⟨source', rest', place'⟩ := c'
  obtain ⟨source'', rest'', place''⟩ := c''
  obtain rfl : source' = source'' := h.source.trans h'.source.symm
  obtain rfl : rest' = rest'' := h.rest_eq h'.rest
  obtain rfl : place' = place'' := h.place.trans h'.place.symm
  rfl

theorem Passes.offset_eq (h : c.Passes text c') :
    c'.place.offset = c.place.offset + Utf8.size text := by
  rw [h.place, Place.offset_after]

theorem Passes.offset_le (h : c.Passes text c') : c.place.offset ≤ c'.place.offset := by
  rw [h.offset_eq]
  exact Nat.le_add_right _ _

/-- A character has at least one byte. -/
theorem Passes.offset_lt (h : c.Passes text c') (htext : text ≠ []) :
    c.place.offset < c'.place.offset := by
  obtain ⟨d, ds, rfl⟩ := List.exists_cons_of_ne_nil htext
  have hpos := d.utf8Size_pos
  rw [h.offset_eq, Utf8.size_cons]
  omega

end

theorem passes_eatWhile (c : Cursor) (p : Char → Bool) :
    c.Passes (c.rest.takeWhile p) (c.eatWhile p) :=
  ⟨rfl, List.takeWhile_append_dropWhile.symm, rfl⟩

theorem passes_advanceBy (c : Cursor) (n : Nat) : c.Passes (c.rest.take n) (c.advanceBy n) := by
  rw [advanceBy_eq]
  exact ⟨rfl, (List.take_append_drop n c.rest).symm, rfl⟩

/-- Some of the text has been passed, the rest is left, and the place is the one behind what has
been passed. -/
def Coherent (c : Cursor) : Prop :=
  ∃ before, c.source.toList = before ++ c.rest ∧ c.place = Place.origin.after before

theorem coherent_ofString (source : String) : (ofString source).Coherent := ⟨[], rfl, rfl⟩

theorem Coherent.of_passes {c c' : Cursor} {text : List Char} (hc : c.Coherent)
    (h : c.Passes text c') : c'.Coherent := by
  obtain ⟨before, hsource, hplace⟩ := hc
  refine ⟨before ++ text, ?_, ?_⟩
  · rw [h.source, hsource, h.rest, List.append_assoc]
  · rw [h.place, hplace, Place.after_append]

/-- As many bytes have been passed as the position says. -/
theorem Coherent.exists_before {c : Cursor} (hc : c.Coherent) :
    ∃ before, c.source.toList = before ++ c.rest ∧ c.place.offset = Utf8.size before := by
  obtain ⟨before, hsource, hplace⟩ := hc
  refine ⟨before, hsource, ?_⟩
  rw [hplace, Place.offset_after]
  exact Nat.zero_add _

/-- What has been passed and what is left make up the source. -/
theorem Coherent.offset_add_size {c : Cursor} (hc : c.Coherent) :
    c.place.offset + Utf8.size c.rest = c.source.utf8ByteSize := by
  obtain ⟨before, hsource, hoffset⟩ := hc.exists_before
  rw [hoffset, ← Utf8.size_append, ← hsource, Utf8.size_toList]

/-- With nothing left, the cursor stands behind the last byte. -/
theorem Coherent.offset_eq {c : Cursor} (hc : c.Coherent) (hrest : c.rest = []) :
    c.place.offset = c.source.utf8ByteSize := by
  have hsize := hc.offset_add_size
  rwa [hrest, Utf8.size_nil, Nat.add_zero] at hsize

end FrontEnd.Cursor
