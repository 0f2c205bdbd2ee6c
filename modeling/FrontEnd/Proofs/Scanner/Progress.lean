/-
# FrontEnd.Proofs.Scanner.Progress — a scanner moves on until it stands at the end, and stays there.

`scan_cases` says what one pass does: at the end of the text it hands out the end token, and
anywhere else it passes over blanks and one piece, which has a character.  Passing over a character
is what brings the search for the next token to an end (`exists_seeks`) and what bounds a run:
each token and each report takes up a piece of its own (`length_run_le`).

With no text left, nothing but the event stream notices a further call (`next_of_rest_nil`).
-/
import FrontEnd.Proofs.Cursor
import FrontEnd.Proofs.Scanner.History

namespace FrontEnd

open CharClass

/-! ## Each piece takes up a character -/

/-- A text has no more pieces than characters. -/
theorem Splits.length_le {p : Place} {cs : List Char} {xs : List Piece} (h : Splits p cs xs) :
    xs.length ≤ cs.length := by
  induction h with
  | blank => exact Nat.zero_le _
  | @piece blanks rest x xs p _ _ hreads _ ih =>
    obtain ⟨c, ds, htext, -⟩ := hreads.exists_cons
    simp only [htext, List.length_cons, List.length_append]
    omega

/-- A finding is a token or a report, and never both. -/
theorem Finding.length_filterMap (found : List Finding) :
    (found.filterMap Finding.token?).length + (found.filterMap Finding.report?).length =
      found.length := by
  induction found with
  | nil => rfl
  | cons f found ih =>
    cases f with
    | token t =>
      simp only [List.filterMap_cons, Finding.token?, Finding.report?, List.length_cons]
      omega
    | report r =>
      simp only [List.filterMap_cons, Finding.token?, Finding.report?, List.length_cons]
      omega

namespace Scanner

/-- Tokens in front of the end token and reports together are no more than the characters. -/
theorem length_run_le (s : Scanner) :
    s.run.1.dropLast.length + s.reports.length ≤ s.cursor.rest.length := by
  obtain ⟨xs, hsplits⟩ := exists_splits s.cursor.place s.cursor.rest
  have hhistory := history_eq hsplits
  have hfound := List.length_filterMap_le (Piece.finding? s.run.2.strings) xs
  have hboth := Finding.length_filterMap s.history
  rw [tokens_history, reports_history, hhistory, List.length_append, List.length_singleton] at hboth
  have hpieces := hsplits.length_le
  rw [tokens_run hsplits, List.length_append, List.length_singleton] at hboth
  rw [tokens_run hsplits, List.dropLast_concat]
  omega

/-! ## What one pass does -/

/-- One pass stops at the end of the text, or passes over blanks and one piece and takes the piece
as the grammar has it. -/
theorem scan_cases (s : Scanner) :
    ∃ blanks start, s.cursor.Passes blanks start ∧ (∀ c ∈ blanks, isBlank c = true) ∧
      ((start.rest = [] ∧
          s.scan = (some ⟨.endOfText, none, start.point⟩, { s with cursor := start })) ∨
        ∃ text stop reading, text ≠ [] ∧ start.Passes text stop ∧
          Lexeme.Reads text stop.rest.head? reading ∧
          s.scan = { s with cursor := stop }.accept reading (.between start.place stop.place)) := by
  have hstart := s.cursor.passes_eatWhile isBlank
  have hblanks := (isRun_takeWhile isBlank s.cursor.rest).inside
  refine ⟨_, s.cursor.eatWhile isBlank, hstart, hblanks, ?_⟩
  cases hrest : s.cursor.rest.dropWhile isBlank with
  | nil =>
    refine Or.inl ⟨hrest, ?_⟩
    simp only [scan, Cursor.rest_eatWhile, hrest]
  | cons c cs =>
    have hc : isBlank c = false :=
      (isRun_takeWhile isBlank s.cursor.rest).stops c (by rw [hrest]; rfl)
    obtain ⟨rest, heq, hreads⟩ := Lexeme.fits_read hc cs
    let stop := (s.cursor.eatWhile isBlank).advanceBy (Lexeme.read c cs).text.length
    have hstop : (s.cursor.eatWhile isBlank).Passes (Lexeme.read c cs).text stop := by
      have hpasses := (s.cursor.eatWhile isBlank).passes_advanceBy (Lexeme.read c cs).text.length
      rwa [Cursor.rest_eatWhile, hrest, heq, List.take_left] at hpasses
    have hbehind : stop.rest = rest := by
      have hleft := hstop.rest
      rw [Cursor.rest_eatWhile, hrest, heq] at hleft
      exact (List.append_cancel_left hleft).symm
    refine Or.inr ⟨_, stop, _, Lexeme.text_read_ne_nil c cs, hstop, hbehind ▸ hreads, ?_⟩
    simp only [scan, Cursor.rest_eatWhile, hrest]
    rfl

section Pass

variable {s s' : Scanner} {t : Token}

theorem passes_scan (s : Scanner) : ∃ text, s.cursor.Passes text s.scan.2.cursor := by
  obtain ⟨blanks, start, hblanks, -, ⟨-, hscan⟩ | ⟨text, stop, reading, -, htext, -, hscan⟩⟩ :=
    s.scan_cases
  · rw [hscan]
    exact ⟨_, hblanks⟩
  · rw [hscan, cursor_accept]
    exact ⟨_, hblanks.trans htext⟩

theorem cursor_of_accept {reading : Reading} {span : Span} {token : Option Token}
    (h : s.accept reading span = (token, s')) : s'.cursor = s.cursor := by
  have hstays := cursor_accept s reading span
  rwa [h] at hstays

/-- The token of an accepted piece has its kind and its stretch from the piece, and a symbol if the
piece carries a payload. -/
theorem exists_payload_of_accept {reading : Reading} {span : Span}
    (h : (s.accept reading span).1 = some t) :
    ∃ payload, reading = .token t.kind payload ∧ t.span = span ∧
      t.symbol.isSome = payload.isSome := by
  cases reading with
  | comment => cases h
  | malformed e => cases h
  | token kind payload =>
    cases payload with
    | none =>
      obtain rfl := Option.some.inj h
      exact ⟨none, rfl, rfl, rfl⟩
    | some word =>
      obtain rfl := Option.some.inj h
      exact ⟨some word, rfl, rfl, rfl⟩

/-- The end token comes out where no text is left. -/
theorem scan_end (h : s.scan = (some t, s')) (hend : t.isEnd = true) :
    s'.cursor.rest = [] ∧ t = s'.endToken := by
  obtain ⟨blanks, start, -, -, ⟨hrest, hscan⟩ | ⟨text, stop, reading, -, -, hreads, hscan⟩⟩ :=
    s.scan_cases
  · rw [hscan] at h
    obtain ⟨⟨⟩, rfl⟩ := Prod.mk.inj h
    refine ⟨hrest, ?_⟩
    rw [endToken, hrest]
    rfl
  · rw [hscan] at h
    obtain ⟨payload, rfl, -, -⟩ := exists_payload_of_accept (congrArg Prod.fst h)
    exact absurd (beq_iff_eq.mp hend) hreads.ne_endOfText

/-- A token covers part of what the pass has gone over, up to where the pass stops. -/
theorem span_of_scan (h : s.scan = (some t, s')) :
    s.cursor.place.offset ≤ t.span.start ∧ t.span.start ≤ t.span.stop ∧
      t.span.stop = s'.cursor.place.offset := by
  obtain ⟨blanks, start, hblanks, -, ⟨-, hscan⟩ | ⟨text, stop, reading, -, htext, -, hscan⟩⟩ :=
    s.scan_cases
  · rw [hscan] at h
    obtain ⟨⟨⟩, rfl⟩ := Prod.mk.inj h
    exact ⟨hblanks.offset_le, Nat.le_refl _, rfl⟩
  · rw [hscan] at h
    have hcursor : s'.cursor = stop := cursor_of_accept h
    obtain ⟨-, -, hspan, -⟩ := exists_payload_of_accept (congrArg Prod.fst h)
    rw [hspan, hcursor]
    exact ⟨hblanks.offset_le, htext.offset_le, rfl⟩

end Pass

/-! ## The next token -/

/-- Passes without a token, `n` of them, and then one with the token `t`, which leaves the scanner
as the last argument has it. -/
inductive Seeks : Scanner → Nat → Token → Scanner → Prop
  | found {s s' : Scanner} {t : Token} : s.scan = (some t, s') → Seeks s 0 t s'
  | again {s s' u : Scanner} {t : Token} {n : Nat} :
      s.scan = (none, s') → Seeks s' n t u → Seeks s (n + 1) t u

/-- The search for the next token comes to an end: each pass without a token has taken up at least
one of the characters that were left. -/
theorem exists_seeks (s : Scanner) :
    ∃ n s', n ≤ s.cursor.rest.length ∧ s.Seeks n s.next.1 s' ∧ s.next.2 = s'.announce s.next.1 := by
  fun_induction next s with
  | case1 s t s' hscan => exact ⟨0, s', Nat.zero_le _, .found hscan, rfl⟩
  | case2 s s' hscan ih =>
    obtain ⟨n, u, hn, hseeks, hnext⟩ := ih
    have hlt : s'.cursor.rest.length < s.cursor.rest.length := by
      have hless := rest_scan_lt (s := s) (by simp [hscan])
      rwa [hscan] at hless
    exact ⟨n + 1, u, by omega, .again hscan hseeks, hnext⟩

theorem passes_next (s : Scanner) : ∃ text, s.cursor.Passes text s.next.2.cursor := by
  refine next_induction (R := fun s s' => ∃ text, s.cursor.Passes text s'.cursor) ?_ passes_scan
    ?_ s
  · rintro s s' s'' ⟨text, htext⟩ ⟨more, hmore⟩
    exact ⟨_, htext.trans hmore⟩
  · intro s token
    exact ⟨[], .refl s.cursor⟩

theorem span_next (s : Scanner) :
    s.cursor.place.offset ≤ s.next.1.span.start ∧ s.next.1.span.start ≤ s.next.1.span.stop ∧
      s.next.1.span.stop = s.next.2.cursor.place.offset := by
  fun_induction next s with
  | case1 s t s' hscan =>
    have hspan := span_of_scan hscan
    exact hspan
  | case2 s s' hscan ih =>
    obtain ⟨text, htext⟩ := s.passes_scan
    rw [hscan] at htext
    exact ⟨htext.offset_le.trans ih.1, ih.2⟩

/-- A token other than the end token takes up text. -/
theorem offset_next_lt {s : Scanner} (h : s.next.1.isEnd = false) :
    s.cursor.place.offset < s.next.2.cursor.place.offset := by
  obtain ⟨text, htext⟩ := s.passes_next
  have hlt := rest_next_lt h
  refine htext.offset_lt ?_
  rintro rfl
  rw [htext.rest] at hlt
  exact Nat.lt_irrefl _ hlt

theorem next_end {s : Scanner} (h : s.next.1.isEnd = true) :
    s.next.2.cursor.rest = [] ∧ s.next.1 = s.next.2.endToken := by
  fun_induction next s with
  | case1 s t s' hscan =>
    have hend := scan_end hscan h
    exact hend
  | case2 s s' hscan ih => exact ih h

/-! ## At the end -/

/-- At the end of the text, the end token comes out, and only the event stream hears of it. -/
theorem next_of_rest_nil {s : Scanner} (h : s.cursor.rest = []) :
    s.next = (s.endToken, s.announce s.endToken) := by
  have hsplits : Splits s.cursor.place s.cursor.rest [] := by
    rw [h]
    exact .blank (List.forall_mem_nil _)
  have hscan := scan_of_splits_nil hsplits
  rw [next_of_scan_some hscan]
  obtain ⟨compilation, ⟨source, rest, place⟩, errors⟩ := s
  obtain rfl : rest = [] := h
  rfl

/-- What can become of a scanner as long as no other text is loaded: it hands out tokens, and in
between the rest of the compilation may change in any way. -/
inductive Onward (s : Scanner) : Scanner → Prop
  | refl : Onward s s
  | next {u : Scanner} : Onward s u → Onward s u.next.2
  | meanwhile {u : Scanner} (compilation : Compilation) :
      Onward s u → Onward s { u with compilation := compilation }

/-- A scanner as it can be found: in front of a text, of its own or loaded from a file, or
somewhere onward from there. -/
inductive Reachable : Scanner → Prop
  | start {compilation : Compilation} {source : String} {s : Scanner} :
      (ofText compilation source).Onward s → Reachable s
  | load {s u : Scanner} (path : String) : Reachable s → (s.load path).2.Onward u → Reachable u

theorem Onward.coherent {s u : Scanner} (h : s.Onward u) (hs : s.cursor.Coherent) :
    u.cursor.Coherent := by
  induction h with
  | refl => exact hs
  | @next u _ ih =>
    obtain ⟨text, htext⟩ := u.passes_next
    exact ih.of_passes htext
  | meanwhile _ _ ih => exact ih

theorem coherent_load (s : Scanner) (path : String) : (s.load path).2.cursor.Coherent := by
  unfold load
  split
  · exact Cursor.coherent_ofString _
  · exact Cursor.coherent_ofString ""

theorem Reachable.coherent {s : Scanner} (h : s.Reachable) : s.cursor.Coherent := by
  cases h with
  | start honward => exact honward.coherent (Cursor.coherent_ofString _)
  | load path _ honward => exact honward.coherent (coherent_load _ path)

/-- A scanner that has nothing left keeps its place. -/
theorem Onward.cursor_eq {s u : Scanner} (h : s.Onward u) (hs : s.cursor.rest = []) :
    u.cursor = s.cursor := by
  induction h with
  | refl => rfl
  | @next u _ ih =>
    have hu : u.cursor.rest = [] := by rw [ih, hs]
    rw [next_of_rest_nil hu]
    exact ih
  | meanwhile _ _ ih => exact ih

/-- Asked for the next token, the scanner hands out `t` and is left as it was: its cursor, its count
of errors, the string table with its counts, and the journal. -/
structure Repeats (s : Scanner) (t : Token) : Prop where
  token : s.next.1 = t
  cursor : s.next.2.cursor = s.cursor
  errors : s.next.2.errors = s.errors
  strings : s.next.2.strings = s.strings
  journal : s.next.2.compilation.journal = s.compilation.journal

theorem repeats_of_rest_nil {s : Scanner} (h : s.cursor.rest = []) : s.Repeats s.endToken := by
  have hnext := next_of_rest_nil h
  constructor <;> rw [hnext] <;> rfl

/-! ## Counting errors -/

theorem errors_accept (s : Scanner) (x : Piece) :
    (s.accept x.reading x.span).2.errors = s.errors + x.report?.toList.length := by
  obtain ⟨place, text, reading⟩ := x
  cases reading with
  | comment => rfl
  | malformed e => rfl
  | token kind payload => cases payload <;> rfl

/-- Each error that was counted from one state to the other is one report more. -/
structure Counts (s s' : Scanner) : Prop where
  grows : s.Grows s'
  errors : s'.errors = s.errors + (s'.reportsSince s).length

theorem Counts.trans {s s' s'' : Scanner} (h : s.Counts s') (h' : s'.Counts s'') :
    s.Counts s'' := by
  refine ⟨h.grows.trans h'.grows, ?_⟩
  rw [h'.errors, h.errors, reportsSince_trans h.grows h'.grows, List.length_append, Nat.add_assoc]

theorem counts_scan (s : Scanner) : s.Counts s.scan.2 := by
  refine ⟨s.grows_scan, ?_⟩
  obtain ⟨xs, hsplits⟩ := exists_splits s.cursor.place s.cursor.rest
  cases xs with
  | nil =>
    rw [scan_of_splits_nil hsplits, reportsSince_of_eq (by rfl)]
    rfl
  | cons x xs =>
    obtain ⟨rest, -, -, hscan⟩ := scan_of_splits_cons hsplits
    let s₀ : Scanner := { s with cursor := ⟨s.cursor.source, rest, x.stop⟩ }
    have hreports := congrArg List.length (reportsSince_accept s₀ x)
    rw [List.length_map] at hreports
    have herrors := errors_accept s₀ x
    rw [← hreports] at herrors
    rw [hscan]
    exact herrors

theorem counts_announce (s : Scanner) (token : Token) : s.Counts (s.announce token) := by
  refine ⟨s.grows_announce token, ?_⟩
  rw [reportsSince_of_eq (by rfl)]
  rfl

theorem counts_next (s : Scanner) : s.Counts s.next.2 :=
  next_induction (R := Counts) Counts.trans counts_scan counts_announce s

theorem counts_run (s : Scanner) : s.Counts s.run.2 :=
  run_induction (R := Counts) Counts.trans counts_next s

theorem errors_run (s : Scanner) : s.run.2.errors = s.errors + s.reports.length := by
  rw [reports, List.length_map]
  exact s.counts_run.errors

/-! ## Progress -/

/-- From any state a scanner can be found in, the search for the next token ends after no more
passes than characters are left, and one more.  It never moves back in the text, and moves on
unless it is the end token that comes out.  That token stands at the end of the text, and as long
as no other text is loaded it comes out again at every call, which then changes nothing.  Tokens
and reports of the whole run to the end are no more than the characters that were left. -/
theorem next_progress {s : Scanner} (h : s.Reachable) :
    let t := s.next.1
    let s' := s.next.2
    (∃ n u, n ≤ s.cursor.rest.length ∧ s.Seeks n t u ∧ s' = u.announce t) ∧
      s'.cursor.source = s.cursor.source ∧
      s.cursor.place.offset ≤ s'.cursor.place.offset ∧
      (t.isEnd = false → s.cursor.place.offset < s'.cursor.place.offset) ∧
      (t.isEnd = true →
        s'.cursor.place.offset = s.cursor.source.utf8ByteSize ∧ t.span = s'.cursor.point ∧
          ∀ u, s'.Onward u → u.cursor = s'.cursor ∧ u.Repeats t) ∧
      s.run.2.errors = s.errors + s.reports.length ∧
      s.run.1.dropLast.length + s.reports.length ≤ s.cursor.rest.length := by
  intro t s'
  obtain ⟨text, htext⟩ := s.passes_next
  refine ⟨s.exists_seeks, htext.source, htext.offset_le, offset_next_lt, ?_, s.errors_run,
    s.length_run_le⟩
  intro hend
  obtain ⟨hrest, htoken⟩ := next_end hend
  have hcoherent : s'.cursor.Coherent := h.coherent.of_passes htext
  have hpoint : s'.endToken = ⟨.endOfText, none, s'.cursor.point⟩ := by
    rw [endToken, hrest]
    rfl
  refine ⟨?_, ?_, ?_⟩
  · rw [hcoherent.offset_eq hrest, htext.source]
  · show s.next.1.span = _
    rw [htoken, hpoint]
  · intro u honward
    have hcursor := honward.cursor_eq hrest
    have hrepeats : u.Repeats u.endToken := repeats_of_rest_nil (by rw [hcursor, hrest])
    refine ⟨hcursor, ?_⟩
    show u.Repeats s.next.1
    rw [htoken]
    rwa [endToken, hcursor] at hrepeats

/-- Behind the first token of a text there are a stray character and an open comment, and then the
end token, again and again. -/
theorem next_progress_open_comment :
    let c : Compilation := .withoutLog .standard (.ofDisk .fresh fun _ => 0)
    let s := (ofText c "ab @ /* c").next.2
    s.Reachable ∧ s.next.1.isEnd = true ∧ s.next.2.cursor.place.offset = 9 ∧
      s.next.1.span = ⟨9, 9, 0, 9⟩ ∧ s.next.2.next.2.Repeats s.next.1 ∧ s.reports.length = 2 ∧
      s.run.1.dropLast.length + s.reports.length ≤ 7 := by
  intro c s
  have hreachable : s.Reachable := .start (.next .refl)
  have hend : s.next.1.isEnd = true := by decide +kernel
  have hreports : s.reports.length = 2 := by decide +kernel
  have hrest : s.cursor.rest.length = 7 := by decide +kernel
  obtain ⟨-, -, -, -, hstay, -, hlength⟩ := next_progress hreachable
  obtain ⟨hoffset, hspan, honward⟩ := hstay hend
  have hsize : s.cursor.source.utf8ByteSize = 9 := by decide +kernel
  have hpoint : s.next.2.cursor.point = ⟨9, 9, 0, 9⟩ := by decide +kernel
  exact ⟨hreachable, hend, hoffset.trans hsize, hspan.trans hpoint, (honward _ (.next .refl)).2,
    hreports, hrest ▸ hlength⟩

end Scanner

end FrontEnd
