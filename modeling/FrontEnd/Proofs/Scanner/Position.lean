/-
# FrontEnd.Proofs.Scanner.Position — every reported position is the true one.

A scanner moves its cursor by cursor operations alone, so the cursor it can be found with is
coherent (`Reachable.coherent`), and each piece of text starts where the characters in front of it
lead to.  That carries over to whatever a run brings forth: the line and column of a token or a
report are those of its byte offset (`located_of_mem_history`).
-/
import FrontEnd.Proofs.Cursor.Operation
import FrontEnd.Proofs.Scanner.Progress

namespace FrontEnd.Scanner

/-- Tokens and reports of a run start where their line and column say. -/
theorem located_of_mem_history {s : Scanner} (h : s.cursor.Coherent) :
    ∀ f ∈ s.history, ∃ a, f.span? = some a ∧ a.LocatedIn s.cursor.source := by
  obtain ⟨before, hsource, hplace⟩ := h
  obtain ⟨xs, hsplits⟩ := exists_splits s.cursor.place s.cursor.rest
  rw [history_eq hsplits]
  intro f hf
  rcases List.mem_append.mp hf with hpiece | hend
  · obtain ⟨x, hx, hfinding⟩ := List.mem_filterMap.mp hpiece
    -- The piece starts where the text in front of the cursor and the gap behind it lead to.
    obtain ⟨gap, behind, hrest, hstart, -⟩ := hsplits.exists_reads x hx
    refine ⟨x.span, Piece.span?_of_finding? hfinding, ?_⟩
    show Place.at? s.cursor.source.toList x.place.offset = some x.place
    have hcut : s.cursor.source.toList = before ++ gap ++ (x.text ++ behind) := by
      rw [hsource, hrest, List.append_assoc]
    rw [hstart, hplace, ← Place.after_append]
    exact Place.at?_after hcut
  · obtain rfl := List.mem_singleton.mp hend
    refine ⟨s.endToken.span, rfl, ?_⟩
    show Place.at? s.cursor.source.toList (s.cursor.place.after s.cursor.rest).offset =
      some (s.cursor.place.after s.cursor.rest)
    rw [hplace, ← Place.after_append]
    exact Place.at?_after (hsource.trans (List.append_nil _).symm)

/-- Handing out tokens leaves the source as it is. -/
theorem Onward.source_eq {s u : Scanner} (h : s.Onward u) : u.cursor.source = s.cursor.source := by
  induction h with
  | refl => rfl
  | @next u _ ih =>
    obtain ⟨text, htext⟩ := u.passes_next
    exact htext.source.trans ih
  | meanwhile _ _ ih => exact ih

/-- Wherever operations take a cursor, its position lies in the source between two characters, with
the line and column that counting gives for that offset; it does not go back, and the text behind it
and the text since any earlier position are there to be had.  The tokens and reports that a scanner
brings forth, at whatever time, carry the line and column that counting gives for the offset they
start at, so that their order by offset is the one by line and column. -/
theorem positions_exact :
    (∀ (source : String) (ops more : List Cursor.Operation),
      Cursor.Exact source ((Cursor.ofString source).performAll ops)
        ((Cursor.ofString source).performAll (ops ++ more))) ∧
      ∀ s u : Scanner, s.Reachable → s.Onward u → ∀ f ∈ s.history, ∀ g ∈ u.history,
        ∃ a b, f.span? = some a ∧ g.span? = some b ∧ a.LocatedIn s.cursor.source ∧
          b.LocatedIn s.cursor.source ∧ (a.start < b.start ↔ a.place.Precedes b.place) := by
  refine ⟨Cursor.exact_performAll, ?_⟩
  intro s u hs honward f hf g hg
  obtain ⟨a, ha, hlocated⟩ := located_of_mem_history hs.coherent f hf
  obtain ⟨b, hb, hlocated'⟩ := located_of_mem_history (honward.coherent hs.coherent) g hg
  rw [honward.source_eq] at hlocated'
  exact ⟨a, b, ha, hb, hlocated, hlocated', hlocated.start_lt_iff hlocated'⟩

/-- A character of two bytes stands in front of the word, a newline in front of the stray one. -/
theorem positions_exact_two_lines :
    let source := "\"é\" x\n @"
    let s := ofText (.withoutLog .standard (.ofDisk .fresh fun _ => 0)) source
    let word : Finding := .token ⟨.identifier, some ⟨1⟩, ⟨5, 6, 0, 4⟩⟩
    let stray : Finding := .report ((LexicalError.unexpectedChar '@').content ⟨8, 9, 1, 1⟩)
    (s.Reachable ∧ s.Onward s.next.2 ∧ word ∈ s.history ∧ stray ∈ s.next.2.history) ∧
      Cursor.Exact source ((Cursor.ofString source).performAll [.advanceBy 3, .peek 1])
        ((Cursor.ofString source).performAll [.advanceBy 3, .peek 1, .eatWhile (· ≠ '@')]) ∧
      ((Cursor.ofString source).performAll [.advanceBy 3, .peek 1]).place = ⟨4, 0, 3⟩ ∧
      (⟨5, 6, 0, 4⟩ : Span).LocatedIn source ∧ (⟨8, 9, 1, 1⟩ : Span).LocatedIn source ∧
      (5 < 8 ↔ Place.Precedes ⟨5, 0, 4⟩ ⟨8, 1, 1⟩) := by
  intro source s word stray
  have hreachable : s.Reachable := .start .refl
  have honward : s.Onward s.next.2 := .next .refl
  have hword : word ∈ s.history := by decide +kernel
  have hstray : stray ∈ s.next.2.history := by decide +kernel
  obtain ⟨hcursor, hscanner⟩ := positions_exact
  obtain ⟨a, b, ha, hb, hlocated, hlocated', horder⟩ :=
    hscanner s s.next.2 hreachable honward word hword stray hstray
  obtain rfl := Option.some.inj ha
  obtain rfl := Option.some.inj hb
  exact ⟨⟨hreachable, honward, hword, hstray⟩,
    hcursor source [.advanceBy 3, .peek 1] [.eatWhile (· ≠ '@')], by decide +kernel, hlocated,
    hlocated', horder⟩

end FrontEnd.Scanner
