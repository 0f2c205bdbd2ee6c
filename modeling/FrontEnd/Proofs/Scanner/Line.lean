/-
# FrontEnd.Proofs.Scanner.Line — what is found stands in the line it names.

Tokens and reports carry a line number and a column.  A source file gives the line of that number,
and what was found stands there, from that column on (`lines_agree`).  A token stands there whole:
it lies within one line and does not end with a carriage return, so nothing of it goes with the line
ending (`Lexeme.Compact`).  Of what is reported the first character stands there; an open comment may
go on over many lines.
-/
import FrontEnd.Proofs.Lexeme.Ending
import FrontEnd.Proofs.Scanner.History
import FrontEnd.Proofs.SourceFile

namespace FrontEnd

open CharClass

/-- The span of a piece covers its text. -/
theorem Piece.stands {x : Piece} {cs before behind : List Char}
    (hcs : cs = before ++ (x.text ++ behind)) (hplace : x.place = Place.origin.after before) :
    Stands cs x.span.start x.span.stop x.text behind := by
  refine ⟨before, hcs, ?_, ?_⟩
  · show _ = x.place.offset
    rw [hplace, Place.offset_after_origin]
  · show _ = (x.place.after x.text).offset
    rw [hplace, ← Place.after_append, Place.offset_after_origin]

namespace Splits

variable {f : SourceFile} {xs : List Piece} {x : Piece}

/-- A piece that reads as a token lies within one line, and stands in it from its column on. -/
theorem token_in_line (h : Splits .origin f.content.toList xs) (hx : x ∈ xs) {kind : Kind}
    {payload : Option (List Char)} (hreading : x.reading = .token kind payload) :
    ∃ text line, Utf8.slice? f.content.toList x.span.start x.span.stop = some text ∧
      '\n' ∉ text ∧ f.line x.span.line = some line ∧ text <+: line.toList.drop x.span.column := by
  obtain ⟨before, behind, hcontent, hplace, hreads⟩ := h.exists_reads x hx
  rw [hreading] at hreads
  have hcompact := hreads.compact_of_token
  obtain ⟨c, cs, htext, -⟩ := hreads.exists_cons
  obtain ⟨d, hd⟩ : ∃ d, x.text.getLast? = some d := by
    rw [htext, List.getLast?_cons]
    exact ⟨_, rfl⟩
  have hreturn : d ≠ '\r' := by
    rintro rfl
    exact Bool.noConfusion (hcompact.isBlank_getLast '\r' hd)
  obtain ⟨line, hline, hstands⟩ := f.exists_line hcontent hcompact.newline_not_mem hd hreturn
  rw [← hplace] at hline hstands
  exact ⟨x.text, line, (Piece.stands hcontent hplace).slice?, hcompact.newline_not_mem, hline,
    hstands⟩

/-- A piece starts with a character that stands in its line, at its column. -/
theorem start_in_line (h : Splits .origin f.content.toList xs) (hx : x ∈ xs) :
    ∃ text line, Utf8.slice? f.content.toList x.span.start x.span.stop = some text ∧
      text ≠ [] ∧ f.line x.span.line = some line ∧ x.span.column < line.length ∧
      line.toList[x.span.column]? = text.head? := by
  obtain ⟨before, behind, hcontent, hplace, hreads⟩ := h.exists_reads x hx
  obtain ⟨c, cs, htext, hc⟩ := hreads.exists_cons
  have hne (d : Char) (hd : isBlank d = true) : c ≠ d := by
    rintro rfl
    rw [hd] at hc
    cases hc
  have hcut : f.content.toList = before ++ ([c] ++ (cs ++ behind)) := by
    rw [hcontent, htext]
    rfl
  have hnewline : '\n' ∉ [c] := by simpa using (hne '\n' rfl).symm
  obtain ⟨line, hline, rest, hrest⟩ := f.exists_line hcut hnewline rfl (hne '\r' rfl)
  rw [← hplace] at hline hrest
  have hchar : line.toList[x.place.column]? = some c := by
    rw [← List.head?_drop, ← hrest]
    rfl
  refine ⟨x.text, line, (Piece.stands hcontent hplace).slice?, ?_, hline, ?_, ?_⟩
  · rw [htext]
    exact List.cons_ne_nil c cs
  · rw [← String.length_toList]
    exact (List.getElem?_eq_some_iff.mp hchar).1
  · rw [htext]
    exact hchar

end Splits

namespace Scanner

/-- Each token of a run, the end token apart, covers a text within one line; the file has the line of
that number, and the text stands in it from the column of the token on.  Each error that is reported
covers a text too; the file has its line, and in the line, at its column, the first character of that
text.  The end token names the last line of the file. -/
theorem lines_agree (compilation : Compilation) (path source : String) :
    let s := ofText compilation source
    let file : SourceFile := ⟨path, source⟩
    let covered (a : Span) := Utf8.slice? source.toList a.start a.stop
    ∃ tokens, s.run.1 = tokens ++ [s.endToken] ∧
      (∀ t ∈ tokens, t.isEnd = false ∧ ∃ text line, covered t.span = some text ∧ '\n' ∉ text ∧
        file.line t.span.line = some line ∧ text <+: line.toList.drop t.span.column) ∧
      (∀ r ∈ s.reports, ∃ a text line, r.span = some a ∧ covered a = some text ∧ text ≠ [] ∧
        file.line a.line = some line ∧ a.column < line.length ∧
        line.toList[a.column]? = text.head?) ∧
      s.endToken.isEnd = true ∧ (∃ line, file.line s.endToken.span.line = some line) ∧
      file.line (s.endToken.span.line + 1) = none := by
  intro s file covered
  obtain ⟨xs, hsplits⟩ := exists_splits .origin source.toList
  have hend : s.endToken.span.line = source.toList.count '\n' := by
    show (Place.origin.after source.toList).line = _
    rw [Place.after_origin]
    rfl
  refine ⟨_, tokens_run (s := s) hsplits, ?_, ?_, rfl, ?_, ?_⟩
  · intro t ht
    obtain ⟨x, hx, hxt⟩ := List.mem_filterMap.mp ht
    obtain ⟨_, _, -, -, hreads⟩ := hsplits.exists_reads x hx
    obtain ⟨payload, hreading, hspan, -⟩ :=
      Piece.exists_reading_of_token? (knownIn_run (s := s) hsplits x hx) hxt
    rw [hspan]
    exact ⟨Piece.isEnd_of_token? hreads hxt, Splits.token_in_line (f := file) hsplits hx hreading⟩
  · intro r hr
    rw [reports_eq (s := s) hsplits] at hr
    obtain ⟨x, hx, hxr⟩ := List.mem_filterMap.mp hr
    obtain ⟨text, line, hstart⟩ := Splits.start_in_line (f := file) hsplits hx
    exact ⟨x.span, text, line, Piece.span_of_report? hxr, hstart⟩
  · apply Option.ne_none_iff_exists'.mp
    rw [Ne, file.line_eq_none_iff, hend]
    exact Nat.lt_irrefl _
  · rw [file.line_eq_none_iff, hend]
    exact Nat.lt_succ_self _

end Scanner

end FrontEnd
