/-
# FrontEnd.Proofs.Scanner.Scan — what a scanner does with one piece.

`Scanner.scan` skips blanks and reads a piece; in terms of a splitting of the text that is left,
it accepts the first piece and leaves the others (`scan_of_splits_nil`, `scan_of_splits_cons`).
Accepting a piece touches the compilation in two places: a malformed piece adds one error to the
journal, and the text of a token goes into the string table.  So what is handed out and reported
is what the piece itself gives (`fst_accept`, `reportsSince_accept`), and along a run journal and
table only grow (`Grows`).  What every pass keeps, a run keeps (`next_induction`, `run_induction`).
-/
import FrontEnd.Proofs.Finding
import FrontEnd.Scanner
import Mathlib.Data.List.TakeWhile

namespace FrontEnd

namespace Scanner

open CharClass

/-! ## One piece at a time -/

/-- The token at the end of the text. -/
def endToken (s : Scanner) : Token :=
  ⟨.endOfText, none, .atPlace (s.cursor.place.after s.cursor.rest)⟩

/-- Where the text splits into no piece, the end token comes out. -/
theorem scan_of_splits_nil {s : Scanner} (h : Splits s.cursor.place s.cursor.rest []) :
    s.scan = (some s.endToken,
      { s with cursor := ⟨s.cursor.source, [], s.cursor.place.after s.cursor.rest⟩ }) := by
  have hblank := splits_nil_iff.mp h
  have hdrop : s.cursor.rest.dropWhile isBlank = [] := List.dropWhile_eq_nil_iff.mpr hblank
  have htake : s.cursor.rest.takeWhile isBlank = s.cursor.rest :=
    List.takeWhile_eq_self_iff.mpr hblank
  simp only [scan, Cursor.eatWhile, hdrop, htake]
  rfl

/-- The blanks in front of a piece are the longest run of blanks there. -/
theorem isRun_blanks {blanks text : List Char} {next : Option Char} {reading : Reading}
    (hblanks : ∀ c ∈ blanks, isBlank c = true) (hreads : Lexeme.Reads text next reading)
    (rest : List Char) : IsRun isBlank blanks (text ++ rest).head? := by
  obtain ⟨c, ds, rfl, hc⟩ := hreads.exists_cons
  refine ⟨hblanks, ?_⟩
  rintro d ⟨⟩
  exact hc

/-- Behind blanks, what reads as a piece is accepted as that piece. -/
theorem scan_of_reads {s : Scanner} {blanks text behind : List Char} {reading : Reading}
    (hrest : s.cursor.rest = blanks ++ (text ++ behind))
    (hblanks : ∀ c ∈ blanks, isBlank c = true)
    (hreads : Lexeme.Reads text behind.head? reading) :
    let start := s.cursor.place.after blanks
    s.scan = { s with cursor := ⟨s.cursor.source, behind, start.after text⟩ }.accept reading
      (.between start (start.after text)) := by
  obtain ⟨c, ds, htext, -⟩ := hreads.exists_cons
  have hcons : text ++ behind = c :: (ds ++ behind) := by rw [htext]; rfl
  have hread := Lexeme.read_of_reads hreads hcons
  have hrun := isRun_blanks hblanks hreads behind
  have htake : s.cursor.rest.takeWhile isBlank = blanks := by rw [hrest, takeWhile_of_isRun hrun]
  have hdrop : s.cursor.rest.dropWhile isBlank = text ++ behind := by
    rw [hrest, dropWhile_of_isRun hrun]
  simp only [scan, Cursor.eatWhile, Cursor.advanceBy_eq, htake, hdrop]
  rw [hcons]
  simp only [hread]
  rw [← hcons, List.drop_left, List.take_left]

/-- Where the text splits, its first piece is accepted and the others are left. -/
theorem scan_of_splits_cons {s : Scanner} {x : Piece} {xs : List Piece}
    (h : Splits s.cursor.place s.cursor.rest (x :: xs)) :
    ∃ rest, Splits x.stop rest xs ∧
      x.stop.after rest = s.cursor.place.after s.cursor.rest ∧
      s.scan = { s with cursor := ⟨s.cursor.source, rest, x.stop⟩ }.accept x.reading x.span := by
  obtain ⟨blanks, rest, hcs, hblanks, hplace, hreads, hrest⟩ := splits_cons_iff.mp h
  refine ⟨rest, hrest, ?_, ?_⟩
  · rw [hcs, Place.after_append, Place.after_append, ← hplace, Piece.stop]
  · rw [Piece.span, Piece.stop, hplace]
    exact scan_of_reads hcs hblanks hreads

/-! ## From one pass to a whole run -/

section Induction

variable {R : Scanner → Scanner → Prop} (htrans : ∀ {s s' s''}, R s s' → R s' s'' → R s s'')

include htrans

/-- What holds from before a pass to behind it, and across an announcement, holds from before the
next token to behind it. -/
theorem next_induction (hscan : ∀ s, R s s.scan.2) (hannounce : ∀ s token, R s (s.announce token))
    (s : Scanner) : R s s.next.2 := by
  fun_induction next s with
  | case1 s token s' heq =>
    have hpass := hscan s
    rw [heq] at hpass
    exact htrans hpass (hannounce s' token)
  | case2 s s' heq ih =>
    have hpass := hscan s
    rw [heq] at hpass
    exact htrans hpass ih

/-- What holds from before a token to behind it holds from the start of a run to its end. -/
theorem run_induction (hnext : ∀ s, R s s.next.2) (s : Scanner) : R s s.run.2 := by
  fun_induction run s with
  | case1 s token s' heq hend =>
    have hfirst := hnext s
    rw [heq] at hfirst
    exact hfirst
  | case2 s token s' heq hend tokens s'' hrun ih =>
    have hfirst := hnext s
    rw [heq] at hfirst
    rw [hrun] at ih
    exact htrans hfirst ih

end Induction

/-! ## The journal and the string table -/

/-- The records in the journal. -/
def records (s : Scanner) : List Diagnostic := s.compilation.journal.records.toList

/-- The errors that came into the journal since an earlier state. -/
def reportsSince (s' s : Scanner) : List Diagnostic :=
  (s'.records.drop s.records.length).filter Diagnostic.isError

theorem reportsSince_of_append {s s' : Scanner} {new : List Diagnostic}
    (h : s'.records = s.records ++ new) : s'.reportsSince s = new.filter Diagnostic.isError := by
  rw [reportsSince, h, List.drop_left]

theorem reportsSince_of_eq {s s' : Scanner} (h : s'.records = s.records) :
    s'.reportsSince s = [] := by
  rw [reportsSince_of_append (h.trans (List.append_nil _).symm)]
  rfl

/-- The later state has the records and strings of the earlier one, and maybe more. -/
structure Grows (s s' : Scanner) : Prop where
  records : s.records <+: s'.records
  strings : s.strings.Extends s'.strings

theorem Grows.refl (s : Scanner) : s.Grows s := ⟨List.prefix_rfl, .refl _⟩

theorem Grows.trans {s s' s'' : Scanner} (h : s.Grows s') (h' : s'.Grows s'') : s.Grows s'' :=
  ⟨h.records.trans h'.records, h.strings.trans h'.strings⟩

/-- Reports of two stretches of a run come one after the other. -/
theorem reportsSince_trans {s s' s'' : Scanner} (h : s.Grows s') (h' : s'.Grows s'') :
    s''.reportsSince s = s'.reportsSince s ++ s''.reportsSince s' := by
  obtain ⟨new, hnew⟩ := h.records
  obtain ⟨more, hmore⟩ := h'.records
  have hboth : s''.records = s.records ++ (new ++ more) := by
    rw [← hmore, ← hnew, List.append_assoc]
  rw [reportsSince_of_append hnew.symm, reportsSince_of_append hmore.symm,
    reportsSince_of_append hboth, List.filter_append]

/-- Whatever is reported is one record more, at the end of the journal. -/
theorem journal_report (c : Compilation) (r : Diagnostic.Content) :
    ∃ d : Diagnostic, d.content = r ∧
      (c.report r.level r.message r.code r.span).journal.records.toList =
        c.journal.records.toList ++ [d] := by
  refine ⟨⟨r.level, r.message, r.code, r.span, c.host.now.1⟩, rfl, ?_⟩
  simp [Compilation.report, Diagnostic.Journal.emit]

/-- A report is one error more. -/
theorem records_report (s : Scanner) (e : LexicalError) (span : Span) :
    ∃ d : Diagnostic, d.content = e.content span ∧ d.isError = true ∧
      (s.report e span).records = s.records ++ [d] := by
  obtain ⟨d, hcontent, hrecords⟩ := journal_report s.compilation (e.content span)
  have hlevel : d.level = .error := congrArg Diagnostic.Content.level hcontent
  exact ⟨d, hcontent, congrArg Diagnostic.Level.isError hlevel, hrecords⟩

/-- Interning adds no error; a trace, where it is asked for, is none and has no code. -/
theorem records_intern (c : Compilation) (text : String) :
    ∃ new, (c.intern text).2.journal.records.toList = c.journal.records.toList ++ new ∧
      new.filter Diagnostic.isError = [] ∧ ∀ d ∈ new, d.code = none := by
  rcases h : c.strings.internFull text with ⟨symbol, isNew, strings⟩
  simp only [Compilation.intern, h]
  split
  · obtain ⟨d, hcontent, hrecords⟩ := journal_report { c with strings := strings }
      ⟨.info, Compilation.internTrace symbol text, none, none⟩
    have hlevel : d.level = .info := congrArg Diagnostic.Content.level hcontent
    have hcode : d.code = none := congrArg Diagnostic.Content.code hcontent
    refine ⟨[d], hrecords, ?_, List.forall_mem_singleton.mpr hcode⟩
    rw [List.filter_singleton, Diagnostic.isError, hlevel]
    rfl
  · exact ⟨[], (List.append_nil _).symm, rfl, List.forall_mem_nil _⟩

theorem strings_intern (c : Compilation) (text : String) :
    (c.intern text).2.strings = (c.strings.intern text).2 := by
  rcases h : c.strings.internFull text with ⟨symbol, isNew, strings⟩
  simp only [Compilation.intern, Symbol.Table.intern, h]
  split
  · rfl
  · rfl

/-- The handle of an interned text is the one that the table has for it from then on. -/
theorem lookup_intern_strings (c : Compilation) (text : String) :
    (c.intern text).2.strings.lookup text = some (c.intern text).1 := by
  rw [strings_intern]
  exact Symbol.Table.lookup_intern c.strings text

/-! ## What an accepted piece brings forth -/

section Accept

variable (s : Scanner) (x : Piece)

theorem fst_accept :
    (s.accept x.reading x.span).1 = x.token? (s.accept x.reading x.span).2.strings := by
  obtain ⟨place, text, reading⟩ := x
  cases reading with
  | comment => rfl
  | malformed e => rfl
  | token kind payload =>
    cases payload with
    | none => rfl
    | some word =>
      have hlookup := lookup_intern_strings s.compilation (.ofList word)
      show some (Token.mk kind (some (s.compilation.intern (.ofList word)).1) _) =
        some (Token.mk kind
          ((s.compilation.intern (.ofList word)).2.strings.lookup (.ofList word)) _)
      rw [hlookup]

/-- The table knows the payload of an accepted piece. -/
theorem knownIn_accept : x.KnownIn (s.accept x.reading x.span).2.strings := by
  obtain ⟨place, text, reading⟩ := x
  cases reading with
  | comment => rintro word ⟨⟩
  | malformed e => rintro word ⟨⟩
  | token kind payload =>
    intro word hword
    obtain rfl : payload = some word := hword
    exact ⟨_, lookup_intern_strings s.compilation (.ofList word)⟩

/-- Accepting a piece interns the text it carries, and nothing else. -/
theorem strings_accept :
    (s.accept x.reading x.span).2.strings = s.strings.internAll x.payloadText?.toList := by
  obtain ⟨place, text, reading⟩ := x
  cases reading with
  | comment => rfl
  | malformed e => rfl
  | token kind payload =>
    cases payload with
    | none => rfl
    | some word => exact strings_intern s.compilation (.ofList word)

/-- Accepting a piece reports what there is to report of it, and nothing else. -/
theorem reportsSince_accept :
    ((s.accept x.reading x.span).2.reportsSince s).map Diagnostic.content =
      x.report?.toList := by
  obtain ⟨place, text, reading⟩ := x
  cases reading with
  | comment =>
    have hnone : s.reportsSince s = [] := reportsSince_of_eq rfl
    exact congrArg (List.map _) hnone
  | malformed e =>
    obtain ⟨d, hcontent, hd, hrecords⟩ :=
      s.records_report e (Piece.span ⟨place, text, .malformed e⟩)
    have hreports : (s.report e (Piece.span ⟨place, text, .malformed e⟩)).reportsSince s = [d] := by
      rw [reportsSince_of_append hrecords, List.filter_singleton, hd]
      rfl
    show List.map Diagnostic.content (reportsSince (s.report e _) s) = [_]
    rw [hreports]
    exact congrArg (fun r => [r]) hcontent
  | token kind payload =>
    cases payload with
    | none =>
      have hnone : s.reportsSince s = [] := reportsSince_of_eq rfl
      exact congrArg (List.map _) hnone
    | some word =>
      -- a trace may have come into the journal, but it is no error
      obtain ⟨new, hnew, hfilter, -⟩ := records_intern s.compilation (.ofList word)
      have hnone : (s.accept (.token kind (some word))
          (Piece.span ⟨place, text, .token kind (some word)⟩)).2.reportsSince s = [] := by
        rw [← hfilter]
        exact reportsSince_of_append hnew
      exact congrArg (List.map _) hnone

end Accept

/-! ## Records and strings only grow -/

theorem grows_accept (s : Scanner) (reading : Reading) (span : Span) :
    s.Grows (s.accept reading span).2 := by
  cases reading with
  | comment => exact .refl s
  | malformed e =>
    obtain ⟨d, -, -, hd⟩ := s.records_report e span
    exact ⟨⟨[d], hd.symm⟩, .refl _⟩
  | token kind payload =>
    cases payload with
    | none => exact .refl s
    | some text =>
      obtain ⟨new, hnew, -⟩ := records_intern s.compilation (.ofList text)
      refine ⟨⟨new, hnew.symm⟩, ?_⟩
      show s.strings.Extends (s.compilation.intern (.ofList text)).2.strings
      rw [strings_intern]
      exact Symbol.Table.extends_intern _ _

/-- Growth is a matter of the compilation, not of where the cursor stands. -/
theorem grows_moveTo (s : Scanner) (cursor : Cursor) : s.Grows { s with cursor := cursor } :=
  ⟨List.prefix_rfl, .refl _⟩

theorem grows_announce (s : Scanner) (token : Token) : s.Grows (s.announce token) :=
  ⟨List.prefix_rfl, .refl _⟩

theorem grows_scan (s : Scanner) : s.Grows s.scan.2 := by
  unfold scan
  dsimp only
  split
  · exact s.grows_moveTo _
  · exact (s.grows_moveTo _).trans (grows_accept _ _ _)

theorem grows_next (s : Scanner) : s.Grows s.next.2 :=
  next_induction (R := Grows) Grows.trans grows_scan grows_announce s

theorem grows_run (s : Scanner) : s.Grows s.run.2 :=
  run_induction (R := Grows) Grows.trans grows_next s

end Scanner

end FrontEnd
