/-
# FrontEnd.Proofs.Scanner.Tiling — no text is lost and none is covered twice.

The spans of what a run brings forth, tokens and reports alike, stand one behind the other.  What
lies in front of them, between them and behind them is filler.  `Tiles` has the form of a text: a
gap, a covered stretch, and the same again from there on.  `history_tiles` says it in byte offsets.
-/
import FrontEnd.Proofs.Filler
import FrontEnd.Proofs.Scanner.History
import FrontEnd.Proofs.Text.Slice

namespace FrontEnd

/-- The text from an offset on is filler and what the spans cover, in turns. -/
inductive Tiles : Nat → List Char → List Span → Prop
  | filler {n : Nat} {gap : List Char} : Filler gap none → Tiles n gap []
  | covered {n : Nat} {gap text rest : List Char} {s : Span} {spans : List Span} :
      Filler gap text.head? → text ≠ [] → s.start = n + Utf8.size gap →
      s.stop = s.start + Utf8.size text → Tiles s.stop rest spans →
      Tiles n (gap ++ (text ++ rest)) (s :: spans)

/-- The stretches between `start` and `stop` that spans leave: in front of the first span, between
each and the next, and behind the last. -/
def gaps (start : Nat) (spans : List Span) (stop : Nat) : List (Nat × Nat) :=
  match spans with
  | [] => [(start, stop)]
  | s :: spans => (start, s.start) :: gaps s.stop spans stop

namespace Tiles

variable {n : Nat} {cs : List Char} {spans : List Span}

theorem prepend_filler {gap : List Char} (hgap : Filler gap cs.head?)
    (h : Tiles (n + Utf8.size gap) cs spans) : Tiles n (gap ++ cs) spans := by
  cases h with
  | filler hcs =>
    refine .filler (Filler.append ?_ hcs)
    rwa [Option.or_none]
  | @covered _ more text rest s spans hmore htext hstart hstop hrest =>
    rw [← List.append_assoc]
    refine .covered (Filler.append ?_ hmore) htext ?_ hstop hrest
    · obtain ⟨c, ds, rfl⟩ := List.exists_cons_of_ne_nil htext
      rwa [List.head?_append] at hgap
    · rw [hstart, Utf8.size_append, Nat.add_assoc]

/-- Spans come one behind the other. -/
theorem pairwise (h : Tiles n cs spans) :
    (∀ s ∈ spans, n ≤ s.start) ∧ spans.Pairwise fun a b => a.stop ≤ b.start := by
  -- the lower bound on the starts is what carries the order from one span to all behind it
  induction h with
  | filler => exact ⟨by simp, .nil⟩
  | covered _ _ hstart hstop _ ih =>
    obtain ⟨hle, hpairwise⟩ := ih
    refine ⟨List.forall_mem_cons.mpr ⟨by omega, ?_⟩, .cons hle hpairwise⟩
    intro s hs
    have := hle s hs
    omega

/-- The bytes in front of a covered stretch, and up to its end. -/
theorem size_covered {before gap text : List Char} {s : Span} (hn : Utf8.size before = n)
    (hstart : s.start = n + Utf8.size gap) (hstop : s.stop = s.start + Utf8.size text) :
    Utf8.size (before ++ gap) = s.start ∧ Utf8.size (before ++ gap ++ text) = s.stop := by
  simp only [Utf8.size_append]
  omega

/-- Each span covers a part of the text that is not empty. -/
theorem stands (h : Tiles n cs spans) (before : List Char) (hn : Utf8.size before = n) :
    ∀ s ∈ spans, ∃ text behind, text ≠ [] ∧ Stands (before ++ cs) s.start s.stop text behind := by
  -- what has been passed already becomes part of the text in front
  induction h generalizing before with
  | filler => simp
  | @covered n gap text rest s spans _ htext hstart hstop _ ih =>
    obtain ⟨hsize, hsize'⟩ := size_covered hn hstart hstop
    have hcs : before ++ (gap ++ (text ++ rest)) = before ++ gap ++ text ++ rest := by
      simp only [List.append_assoc]
    refine List.forall_mem_cons.mpr ⟨⟨text, rest, htext, before ++ gap, ?_, hsize, hsize'⟩, ?_⟩
    · simp only [List.append_assoc]
    · rw [hcs]
      exact ih _ hsize'

/-- Each gap is filler. -/
theorem filler_of_mem_gaps (h : Tiles n cs spans) (before : List Char)
    (hn : Utf8.size before = n) :
    ∀ gap ∈ gaps n spans (Utf8.size (before ++ cs)), ∃ text behind,
      Stands (before ++ cs) gap.1 gap.2 text behind ∧ Filler text behind.head? := by
  induction h generalizing before with
  | @filler n gap hgap =>
    refine List.forall_mem_singleton.mpr ⟨gap, [], ⟨before, ?_, hn, rfl⟩, hgap⟩
    rw [List.append_nil]
  | @covered n gap text rest s spans hgap htext hstart hstop _ ih =>
    obtain ⟨hsize, hsize'⟩ := size_covered hn hstart hstop
    have hcs : before ++ (gap ++ (text ++ rest)) = before ++ gap ++ text ++ rest := by
      simp only [List.append_assoc]
    refine List.forall_mem_cons.mpr ⟨⟨gap, text ++ rest, ⟨before, rfl, hn, hsize⟩, ?_⟩, ?_⟩
    · -- the stretch covered next has a first character, and the gap was judged in front of it
      obtain ⟨c, ds, rfl⟩ := List.exists_cons_of_ne_nil htext
      exact hgap
    · rw [hcs]
      exact ih _ hsize'

end Tiles

/-- The spans of the pieces other than comments tile the text. -/
theorem Splits.tiles {p : Place} {cs : List Char} {xs : List Piece} (h : Splits p cs xs) :
    Tiles p.offset cs ((xs.filter (·.reading ≠ .comment)).map Piece.span) := by
  induction h with
  | blank hblanks => exact .filler (Filler.of_blanks hblanks none)
  | @piece blanks rest x xs p hblanks hplace hreads _ ih =>
    have hstart : x.place.offset = p.offset + Utf8.size blanks := by
      rw [hplace, Place.offset_after]
    have hstop : x.stop.offset = x.place.offset + Utf8.size x.text := Place.offset_after _ _
    obtain ⟨c, ds, htext, -⟩ := hreads.exists_cons
    -- a comment belongs to the gap, together with the blanks in front of it
    by_cases hcomment : x.reading = .comment
    · rw [List.filter_cons_of_neg (by simpa using hcomment)]
      rw [hcomment] at hreads
      refine Tiles.prepend_filler (Filler.of_blanks hblanks _) ?_
      refine Tiles.prepend_filler (Filler.of_reads hreads) ?_
      rwa [← hstart, ← hstop]
    · rw [List.filter_cons_of_pos (by simpa using hcomment)]
      refine .covered (Filler.of_blanks hblanks _) ?_ hstart hstop ih
      rw [htext]
      exact List.cons_ne_nil _ _

/-- Findings cover the pieces other than comments, in order. -/
theorem map_span?_finding? (table : Symbol.Table) (xs : List Piece) :
    (xs.filterMap (Piece.finding? table)).map Finding.span? =
      ((xs.filter (·.reading ≠ .comment)).map Piece.span).map some := by
  induction xs with
  | nil => rfl
  | cons x xs ih =>
    cases hx : x.finding? table with
    | none =>
      have hcomment := Piece.finding?_eq_none_iff.mp hx
      rw [List.filterMap_cons_none hx, List.filter_cons_of_neg (by simpa using hcomment), ih]
    | some f =>
      have hcomment : x.reading ≠ .comment := by
        intro heq
        rw [Piece.finding?_eq_none_iff.mpr heq] at hx
        cases hx
      rw [List.filterMap_cons_some hx, List.filter_cons_of_pos (by simpa using hcomment),
        List.map_cons, List.map_cons, List.map_cons, ih, Piece.span?_of_finding? hx]

namespace Scanner

/-- No token that a piece gives marks the end. -/
theorem isEnd_of_mem_findings {table : Symbol.Table} {p : Place} {cs : List Char}
    {xs : List Piece} (h : Splits p cs xs) :
    ∀ t, Finding.token t ∈ xs.filterMap (Piece.finding? table) → t.isEnd = false := by
  intro t ht
  obtain ⟨x, hx, hfinding⟩ := List.mem_filterMap.mp ht
  have htoken : x.token? table = some t := by rw [← Piece.finding?_bind_token?, hfinding]; rfl
  obtain ⟨-, behind, -, -, hreads⟩ := h.exists_reads x hx
  exact Piece.isEnd_of_token? hreads htoken

/-- What a run over a source text brings forth in front of the end token covers stretches of the
text that are not empty, begin and end between characters, and come one behind the other; whatever
they leave of the text is blanks and complete comments. -/
theorem history_tiles (compilation : Compilation) (source : String) :
    ∃ (found : List Finding) (spans : List Span),
      (ofText compilation source).history =
        found ++ [.token (ofText compilation source).endToken] ∧
      (∀ t, Finding.token t ∈ found → t.isEnd = false) ∧
      found.map Finding.span? = spans.map some ∧
      (∀ s ∈ spans, s.start < s.stop ∧ (⟨s.start⟩ : String.Pos.Raw).IsValid source ∧
        (⟨s.stop⟩ : String.Pos.Raw).IsValid source) ∧
      spans.Pairwise (fun a b => a.stop ≤ b.start) ∧
      ∀ gap ∈ gaps 0 spans source.utf8ByteSize, ∃ text behind,
        Stands source.toList gap.1 gap.2 text behind ∧ Filler text behind.head? := by
  obtain ⟨xs, hsplits⟩ := exists_splits .origin source.toList
  have htiles := hsplits.tiles
  refine ⟨_, _, history_eq hsplits, isEnd_of_mem_findings hsplits, map_span?_finding? _ xs,
    ?_, htiles.pairwise.2, ?_⟩
  · intro s hs
    obtain ⟨text, behind, htext, hstands⟩ := htiles.stands [] rfl s hs
    exact ⟨hstands.start_lt_stop htext, hstands.isValid_start, hstands.isValid_stop⟩
  · rw [← Utf8.size_toList]
    exact htiles.filler_of_mem_gaps [] rfl

end Scanner

end FrontEnd
