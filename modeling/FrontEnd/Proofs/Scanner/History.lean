/-
# FrontEnd.Proofs.Scanner.History — what a run brings forth.

A run hands out tokens and leaves reports in the journal.  `Scanner.history` lists both in the
order in which they come: with each token, first the errors that were reported on the way to it.
Tokens and reports of a run are the two halves of its history (`tokens_history`,
`reports_history`).

`history_eq` finds the history in the text alone: piece by piece, a token, a report, or nothing,
and the end token last.  Of the compilation only the table at the end of the run matters, and of
that only which handle it gives a text; `Token.Plain` leaves out the handle too.
-/
import FrontEnd.Proofs.Scanner.Scan

namespace FrontEnd

namespace Scanner

/-! ## The history of a run -/

/-- What one call for the next token brings forth. -/
def findings (s : Scanner) : List Finding :=
  (s.next.2.reportsSince s).map .ofReport ++ [.token s.next.1]

/-- Tokens and reports up to the end token, in the order in which they come. -/
def history (s : Scanner) : List Finding :=
  if _h : s.next.1.isEnd = true then s.findings else s.findings ++ s.next.2.history
termination_by s.cursor.rest.length
decreasing_by exact rest_next_lt (Bool.eq_false_iff.mpr _h)

theorem history_of_end {s : Scanner} (h : s.next.1.isEnd = true) : s.history = s.findings := by
  rw [history, dif_pos h]

theorem history_of_not_end {s : Scanner} (h : s.next.1.isEnd = false) :
    s.history = s.findings ++ s.next.2.history := by
  rw [history, dif_neg (Bool.eq_false_iff.mp h)]

theorem run_of_end {s : Scanner} (h : s.next.1.isEnd = true) : s.run = ([s.next.1], s.next.2) := by
  rw [run]
  dsimp only
  rw [if_pos h]

theorem run_of_not_end {s : Scanner} (h : s.next.1.isEnd = false) :
    s.run = (s.next.1 :: s.next.2.run.1, s.next.2.run.2) := by
  rw [run]
  dsimp only
  rw [if_neg (Bool.eq_false_iff.mp h)]

theorem tokens_findings (s : Scanner) : s.findings.filterMap Finding.token? = [s.next.1] := by
  rw [findings, List.filterMap_append, Finding.filterMap_token?_ofReport]
  rfl

theorem reports_findings (s : Scanner) :
    s.findings.filterMap Finding.report? = (s.next.2.reportsSince s).map Diagnostic.content := by
  rw [findings, List.filterMap_append, Finding.filterMap_report?_ofReport]
  exact List.append_nil _

/-- The tokens of a run are the tokens of its history. -/
theorem tokens_history (s : Scanner) : s.history.filterMap Finding.token? = s.run.1 := by
  fun_induction history s with
  | case1 s hend => rw [run_of_end hend, tokens_findings]
  | case2 s hend ih =>
    rw [run_of_not_end (Bool.eq_false_iff.mpr hend), List.filterMap_append, tokens_findings, ih]
    rfl

/-- The tokens of a run as they read in the table at its end. -/
def plainTokens (s : Scanner) : List Token.Plain := s.run.1.map (Token.plain s.run.2.strings)

/-- The errors that a run leaves in the journal. -/
def reports (s : Scanner) : List Diagnostic.Content :=
  (s.run.2.reportsSince s).map Diagnostic.content

/-- The reports of a run are the reports of its history. -/
theorem reports_history (s : Scanner) : s.history.filterMap Finding.report? = s.reports := by
  unfold reports
  fun_induction history s with
  | case1 s hend => rw [run_of_end hend, reports_findings]
  | case2 s hend ih =>
    rw [run_of_not_end (Bool.eq_false_iff.mpr hend), List.filterMap_append, reports_findings, ih,
      ← List.map_append, ← reportsSince_trans s.grows_next s.next.2.grows_run]

/-! ## One piece of a run -/

section OnePiece

variable {s s' : Scanner} {t : Token}

/-- A piece without a token hands over to the pieces behind it. -/
theorem next_of_scan_none (h : s.scan = (none, s')) : s.next = s'.next := by
  rw [next]
  split
  · rename_i heq
    rw [h] at heq
    cases heq
  · rename_i heq
    rw [h] at heq
    obtain ⟨-, rfl⟩ := Prod.mk.inj heq
    rfl

theorem next_of_scan_some (h : s.scan = (some t, s')) : s.next = (t, s'.announce t) := by
  rw [next]
  split
  · rename_i heq
    rw [h] at heq
    obtain ⟨⟨⟩, rfl⟩ := Prod.mk.inj heq
    rfl
  · rename_i heq
    rw [h] at heq
    cases heq

theorem run_of_scan_none (h : s.scan = (none, s')) : s.run = s'.run := by
  rw [run, run]
  simp only [next_of_scan_none h]

theorem run_of_scan_some (h : s.scan = (some t, s')) (hend : t.isEnd = false) :
    s.run = (t :: (s'.announce t).run.1, (s'.announce t).run.2) := by
  have hnext := next_of_scan_some h
  rw [run_of_not_end (by rw [hnext]; exact hend), hnext]

theorem history_of_scan_none (h : s.scan = (none, s')) :
    s.history = (s'.reportsSince s).map .ofReport ++ s'.history := by
  -- both states go on to the same token, and from there to the same end
  have hnext := next_of_scan_none h
  have hscan : s.Grows s' := by
    have hgrows := s.grows_scan
    rwa [h] at hgrows
  have hfindings : s.findings = (s'.reportsSince s).map .ofReport ++ s'.findings := by
    rw [findings, findings, hnext, reportsSince_trans hscan s'.grows_next, List.map_append,
      List.append_assoc]
  cases hend : s'.next.1.isEnd with
  | true => rw [history_of_end (by rw [hnext]; exact hend), history_of_end hend, hfindings]
  | false =>
    rw [history_of_not_end (by rw [hnext]; exact hend), history_of_not_end hend, hfindings, hnext,
      List.append_assoc]

theorem findings_of_scan_some (h : s.scan = (some t, s')) :
    s.findings = (s'.reportsSince s).map .ofReport ++ [.token t] := by
  rw [findings, next_of_scan_some h]
  rfl

theorem history_of_scan_some (h : s.scan = (some t, s')) (hend : t.isEnd = false) :
    s.history =
      (s'.reportsSince s).map .ofReport ++ .token t :: (s'.announce t).history := by
  have hnext := next_of_scan_some h
  rw [history_of_not_end (by rw [hnext]; exact hend), findings_of_scan_some h, hnext,
    List.append_assoc]
  rfl

theorem history_of_scan_end (h : s.scan = (some t, s')) (hend : t.isEnd = true) :
    s.history = (s'.reportsSince s).map .ofReport ++ [.token t] := by
  have hnext := next_of_scan_some h
  rw [history_of_end (by rw [hnext]; exact hend), findings_of_scan_some h]

end OnePiece

/-! ## The history of a text -/

/-- The first piece of a text brings forth its finding, and the pieces behind it are left; its
payload is interned, so that from then on the table knows it. -/
theorem history_of_splits_cons {s : Scanner} {x : Piece} {xs : List Piece}
    (h : Splits s.cursor.place s.cursor.rest (x :: xs)) :
    ∃ s' : Scanner, Splits s'.cursor.place s'.cursor.rest xs ∧ s'.endToken = s.endToken ∧
      s.run.2 = s'.run.2 ∧ s'.strings = s.strings.internAll x.payloadText?.toList ∧
      x.KnownIn s'.strings ∧
      s.history = (x.finding? s'.strings).toList ++ s'.history := by
  obtain ⟨rest, hrest, hstop, hscan⟩ := scan_of_splits_cons h
  obtain ⟨_, _, _, _, _, hreads, _⟩ := splits_cons_iff.mp h
  let s₀ : Scanner := { s with cursor := ⟨s.cursor.source, rest, x.stop⟩ }
  let s₁ : Scanner := (s₀.accept x.reading x.span).2
  have hcursor : s₁.cursor = s₀.cursor := cursor_accept s₀ _ _
  have hsplits : Splits s₁.cursor.place s₁.cursor.rest xs := by
    rw [hcursor]
    exact hrest
  have hendToken : s₁.endToken = s.endToken := by
    rw [endToken, endToken, hcursor, ← hstop]
  have hstrings : s₁.strings = s.strings.internAll x.payloadText?.toList := strings_accept s₀ x
  have hknown : x.KnownIn s₁.strings := knownIn_accept s₀ x
  have hreports : (s₁.reportsSince s).map Finding.ofReport = x.report?.toList.map .report := by
    rw [← reportsSince_accept s₀ x, List.map_map]
    rfl
  have hscan' : s.scan = (x.token? s₁.strings, s₁) := by
    rw [hscan]
    exact Prod.ext (fst_accept s₀ x) rfl
  -- what is known of `s₁` is all that matters from here on, not how it came about
  clear_value s₁
  obtain ⟨place, text, reading⟩ := x
  cases reading with
  | comment =>
    refine ⟨s₁, hsplits, hendToken, congrArg Prod.snd (run_of_scan_none hscan'), hstrings,
      hknown, ?_⟩
    rw [history_of_scan_none hscan', hreports]
    rfl
  | malformed e =>
    refine ⟨s₁, hsplits, hendToken, congrArg Prod.snd (run_of_scan_none hscan'), hstrings,
      hknown, ?_⟩
    rw [history_of_scan_none hscan', hreports]
    rfl
  | token kind payload =>
    have htoken : Piece.token? s₁.strings ⟨place, text, .token kind payload⟩ = some _ := rfl
    have hkind := Piece.isEnd_of_token? hreads htoken
    have hrun := congrArg Prod.snd (run_of_scan_some hscan' hkind)
    refine ⟨s₁.announce _, hsplits, hendToken, hrun, hstrings, hknown, ?_⟩
    rw [history_of_scan_some hscan' hkind, hreports]
    rfl

/-- The table at the end of a run knows every piece of the text. -/
theorem knownIn_run {s : Scanner} {xs : List Piece} (h : Splits s.cursor.place s.cursor.rest xs) :
    ∀ x ∈ xs, x.KnownIn s.run.2.strings := by
  induction xs generalizing s with
  | nil => simp
  | cons x xs ih =>
    obtain ⟨s', hsplits, -, hrun, -, hknown, -⟩ := history_of_splits_cons h
    intro y hy
    rw [hrun]
    rcases List.mem_cons.mp hy with rfl | hmem
    · exact hknown.of_extends s'.grows_run.strings
    · exact ih hsplits y hmem

/-- The history of a run, found in the text. -/
theorem history_eq {s : Scanner} {xs : List Piece} (h : Splits s.cursor.place s.cursor.rest xs) :
    s.history = xs.filterMap (Piece.finding? s.run.2.strings) ++ [.token s.endToken] := by
  induction xs generalizing s with
  | nil =>
    have hscan := scan_of_splits_nil h
    rw [history_of_scan_end hscan rfl, reportsSince_of_eq (by rfl)]
    rfl
  | cons x xs ih =>
    obtain ⟨s', hsplits, hend, hrun, -, hknown, hhistory⟩ := history_of_splits_cons h
    -- the finding was made in the table of `s'`; the table at the end gives the same one
    have hfinding := Piece.finding?_of_extends s'.grows_run.strings hknown
    rw [hhistory, ih hsplits, hend, hrun, ← hfinding, ← List.append_assoc]
    cases hx : x.finding? s'.run.2.strings <;> simp [hx]

/-- The tokens of a run, found in the text. -/
theorem tokens_run {s : Scanner} {xs : List Piece} (h : Splits s.cursor.place s.cursor.rest xs) :
    s.run.1 = xs.filterMap (Piece.token? s.run.2.strings) ++ [s.endToken] := by
  have hpieces : (Piece.finding? s.run.2.strings · |>.bind Finding.token?) =
      Piece.token? s.run.2.strings := funext (Piece.finding?_bind_token? _)
  rw [← tokens_history, history_eq h, List.filterMap_append, List.filterMap_filterMap, hpieces]
  rfl

/-- The reports of a run, found in the text. -/
theorem reports_eq {s : Scanner} {xs : List Piece} (h : Splits s.cursor.place s.cursor.rest xs) :
    s.reports = xs.filterMap Piece.report? := by
  have hpieces : (Piece.finding? s.run.2.strings · |>.bind Finding.report?) = Piece.report? :=
    funext (Piece.finding?_bind_report? _)
  rw [← reports_history, history_eq h, List.filterMap_append, List.filterMap_filterMap, hpieces]
  exact List.append_nil _

/-- The tokens of a run and their texts, found in the text. -/
theorem plainTokens_eq {s : Scanner} {xs : List Piece}
    (h : Splits s.cursor.place s.cursor.rest xs) :
    s.plainTokens = xs.filterMap Piece.plain? ++ [⟨.endOfText, "", s.endToken.span⟩] := by
  have hplain : ∀ x ∈ xs,
      (x.token? s.run.2.strings).map (Token.plain s.run.2.strings) = x.plain? := by
    intro x hx
    exact Piece.map_plain_token? (knownIn_run h x hx)
  rw [plainTokens, tokens_run h, List.map_append, List.map_filterMap,
    List.filterMap_congr hplain]
  rfl

end Scanner

end FrontEnd
