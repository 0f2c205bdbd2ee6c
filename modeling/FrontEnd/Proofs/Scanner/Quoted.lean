/-
# FrontEnd.Proofs.Scanner.Quoted — what a scanner makes of a text that starts with a quote.

Take the rest of the line behind the quote apart from left to right, each backslash with the
character behind it (`Quoted.parts`).  The first quote that is left by itself closes the literal.  If
there is none, the literal is open: it fills its line, and that is all that is said of it, whatever
pairs it holds.  If there is one, the pairs in front of it decide between a token and a report, and
either way the scanner goes on right behind the quote (`scan_string_exact`).

How a pass over a malformed piece differs from one over a token is the same for all pieces:
`Drops` and `Yields` list what each of them leaves behind.
-/
import FrontEnd.Proofs.Lexeme.Ending
import FrontEnd.Proofs.Scanner.Scan

namespace FrontEnd

open CharClass

namespace Quoted

/-- The line behind a closed literal's opening quote: its parts, a quote of its own, and more. -/
theorem parts_line_closed {ps : List Part} (h : ∀ p ∈ ps, p.InLine) (rest : List Char) :
    ∃ more, parts ((written ps ++ '"' :: rest).takeWhile (· ≠ '\n')) =
      ps ++ .plain '"' :: more := by
  have hline : ∀ c ∈ written ps, decide (c ≠ '\n') = true := by
    intro c hc
    have hne : c ≠ '\n' := by
      rintro rfl
      exact Lexeme.newline_not_mem_written h hc
    simpa using hne
  refine ⟨parts (rest.takeWhile (· ≠ '\n')), ?_⟩
  rw [List.takeWhile_append_of_pos hline, List.takeWhile_cons_of_pos (by decide),
    parts_written h, parts_plain (by decide)]

/-- The parts of a literal are those in front of the first quote that stands by itself. -/
theorem takeWhile_parts {ps : List Part} (h : ∀ p ∈ ps, p.InLine) (more : List Part) :
    (ps ++ .plain '"' :: more).takeWhile (· ≠ .plain '"') = ps := by
  have hparts : ∀ p ∈ ps, decide (p ≠ .plain '"') = true := by
    intro p hp
    have hne : p ≠ .plain '"' := by
      rintro rfl
      exact (h _ hp).1 rfl
    simpa using hne
  rw [List.takeWhile_append_of_pos hparts, List.takeWhile_cons_of_neg (by decide),
    List.append_nil]

/-- The line of an open literal holds no quote by itself. -/
theorem quote_not_mem_parts_line {ps : List Part} {loose : List Char} (h : ∀ p ∈ ps, p.InLine)
    (hloose : IsLoose loose) : .plain '"' ∉ parts (written ps ++ loose) := by
  rw [parts_written h]
  intro hmem
  rcases List.mem_append.mp hmem with hquote | hquote
  · exact (h _ hquote).1 rfl
  · exact quote_not_mem_parts hloose hquote

end Quoted

namespace Scanner

/-! ## One pass over a malformed piece, and one over a token -/

/-- The next pass drops `text`, with `behind` left: no token comes out, nothing is interned, and the
one record that it adds to the journal says `e` of the text. -/
structure Drops (s : Scanner) (start : Place) (text behind : List Char) (e : LexicalError) :
    Prop where
  token : s.scan.1 = none
  cursor : s.scan.2.cursor = ⟨s.cursor.source, behind, start.after text⟩
  strings : s.scan.2.strings = s.strings
  errors : s.scan.2.errors = s.errors + 1
  records : ∃ d : Diagnostic, d.content = e.content (.between start (start.after text)) ∧
    s.scan.2.records = s.records ++ [d]

/-- The next pass takes `text`, with `behind` left, for a token of the kind `kind` that says
`payload`.  Nothing but that is interned, and no error is reported. -/
structure Yields (s : Scanner) (start : Place) (text behind : List Char) (kind : Kind)
    (payload : String) : Prop where
  token : ∃ t : Token, s.scan.1 = some t ∧ t.kind = kind ∧ t.symbol.isSome = true ∧
    t.text s.scan.2.strings = payload ∧ t.span = .between start (start.after text)
  cursor : s.scan.2.cursor = ⟨s.cursor.source, behind, start.after text⟩
  strings : s.scan.2.strings = (s.strings.intern payload).2
  errors : s.scan.2.errors = s.errors
  reports : s.scan.2.reportsSince s = []

section Pass

variable {s : Scanner} {blanks text behind : List Char}

theorem drops_of_reads {e : LexicalError} (hrest : s.cursor.rest = blanks ++ (text ++ behind))
    (hblanks : ∀ c ∈ blanks, isBlank c = true)
    (hreads : Lexeme.Reads text behind.head? (.malformed e)) :
    s.Drops (s.cursor.place.after blanks) text behind e := by
  have hscan := scan_of_reads hrest hblanks hreads
  constructor
  case records =>
    rw [hscan]
    obtain ⟨d, hcontent, -, hrecords⟩ := records_report _ e _
    exact ⟨d, hcontent, hrecords⟩
  all_goals
    rw [hscan]
    rfl

theorem yields_of_reads {kind : Kind} {payload : List Char}
    (hrest : s.cursor.rest = blanks ++ (text ++ behind))
    (hblanks : ∀ c ∈ blanks, isBlank c = true)
    (hreads : Lexeme.Reads text behind.head? (.token kind (some payload))) :
    s.Yields (s.cursor.place.after blanks) text behind kind (.ofList payload) := by
  have hscan := scan_of_reads hrest hblanks hreads
  have hlookup := lookup_intern_strings s.compilation (.ofList payload)
  constructor
  case token =>
    rw [hscan]
    exact ⟨_, rfl, rfl, rfl, Symbol.Table.resolve_of_lookup hlookup, rfl⟩
  case strings =>
    rw [hscan]
    exact strings_intern s.compilation (.ofList payload)
  case reports =>
    obtain ⟨new, hnew, hfilter, -⟩ := records_intern s.compilation (.ofList payload)
    rw [hscan, ← hfilter]
    exact reportsSince_of_append hnew
  all_goals
    rw [hscan]
    rfl

end Pass

/-! ## String literals -/

/-- In front of a quote, with blanks before it or not, let `line` be what stands behind the quote up
to the end of the line.  If it holds a quote that no backslash is paired with, the first of these
closes the literal.  Then a string comes out if all pairs in front of that quote are known, and
otherwise the first unknown one is reported; both cover the literal with its two quotes.  If there
is no such quote, all that is reported is a string without an end, which covers the line from the
opening quote on, and what is left starts where the line ends. -/
theorem scan_string_exact {s : Scanner} {body : List Char}
    (h : s.cursor.rest.dropWhile isBlank = '"' :: body) :
    let start := s.cursor.place.after (s.cursor.rest.takeWhile isBlank)
    let line := body.takeWhile (· ≠ '\n')
    let inner := (Quoted.parts line).takeWhile (· ≠ .plain '"')
    let literal := '"' :: (Quoted.written inner ++ ['"'])
    (.plain '"' ∈ Quoted.parts line →
      ∃ behind, '"' :: body = literal ++ behind ∧
        (Quoted.AllKnown inner →
          ∃ text, List.Forall₂ Spelled text (inner.map Quoted.Part.text) ∧
            s.Yields start literal behind (.literal .string) (.ofList text)) ∧
        ∀ front c back, inner = front ++ .pair c :: back → Quoted.AllKnown front →
          c ∉ Quoted.escapable → s.Drops start literal behind (.invalidEscape c)) ∧
      (.plain '"' ∉ Quoted.parts line →
        s.Drops start ('"' :: line) (body.dropWhile (· ≠ '\n')) .unterminatedString) := by
  intro start line inner literal
  have hrest : s.cursor.rest = s.cursor.rest.takeWhile isBlank ++ '"' :: body := by
    rw [← h, List.takeWhile_append_dropWhile]
  have hblanks := (isRun_takeWhile isBlank s.cursor.rest).inside
  obtain ⟨ps, tail, rfl, hps, hending⟩ := Quoted.exists_parts body
  cases hending with
  | closed rest =>
    obtain ⟨more, hparts⟩ := Quoted.parts_line_closed hps rest
    have hinner : inner = ps := by
      show (Quoted.parts line).takeWhile _ = ps
      rw [hparts, Quoted.takeWhile_parts hps]
    have hquote : .plain '"' ∈ Quoted.parts line := by
      rw [hparts]
      simp
    refine ⟨fun _ => ⟨rest, ?_⟩, fun hnone => absurd hquote hnone⟩
    -- from here on, `inner` is nothing but those parts
    clear_value inner
    subst hinner
    have hbody : '"' :: (Quoted.written inner ++ '"' :: rest) = literal ++ rest := by
      simp [literal]
    rw [hbody] at hrest
    refine ⟨hbody, ?_, ?_⟩
    · intro hknown
      have hnone := Quoted.firstUnknown_eq_none_iff.mpr hknown
      exact ⟨_, forall₂_spelled_of_parts hps hnone,
        yields_of_reads hrest hblanks (.string hps hnone)⟩
    · intro front c back hsplit hfront hc
      have hunknown := Quoted.firstUnknown_append_pair hfront hc back
      rw [← hsplit] at hunknown
      exact drops_of_reads hrest hblanks (.badEscape hps hunknown)
  | unclosed loose rest hloose hend =>
    have hrun : IsRun (· ≠ '\n') (Quoted.written ps ++ loose) rest.head? :=
      isRun_line_iff.mpr ⟨Lexeme.newline_not_mem_open hps hloose, hend⟩
    have hline : line = Quoted.written ps ++ loose := by
      show List.takeWhile _ (Quoted.written ps ++ (loose ++ rest)) = _
      rw [← List.append_assoc]
      exact takeWhile_of_isRun hrun
    have hbehind : (Quoted.written ps ++ (loose ++ rest)).dropWhile (· ≠ '\n') = rest := by
      rw [← List.append_assoc]
      exact dropWhile_of_isRun hrun
    have hquote : .plain '"' ∉ Quoted.parts line := by
      rw [hline]
      exact Quoted.quote_not_mem_parts_line hps hloose
    refine ⟨fun hmem => absurd hmem hquote, fun _ => ?_⟩
    rw [hbehind, hline]
    refine drops_of_reads ?_ hblanks (.openString hps hloose hend)
    rw [List.cons_append, List.append_assoc]
    exact hrest

/-- A string that ends in a pair of backslashes, one with two unknown pairs around a quote that does
not close it, and an open one with an unknown pair and a backslash at the end of its line. -/
theorem scan_string_exact_backslashes :
    let c : Compilation := .withoutLog .standard (.ofDisk .fresh fun _ => 0)
    let s := ofText c " \"a\\\"\\\\\"b"
    let u := ofText c "\"\\q\\\"\\z\" x"
    let v := ofText c "\"\\q\\\n\""
    s.Yields ⟨1, 0, 1⟩ ['"', 'a', '\\', '"', '\\', '\\', '"'] ['b'] (.literal .string) "a\"\\" ∧
      u.Drops .origin ['"', '\\', 'q', '\\', '"', '\\', 'z', '"'] [' ', 'x']
        (.invalidEscape 'q') ∧
      v.Drops .origin ['"', '\\', 'q', '\\'] ['\n', '"'] .unterminatedString := by
  intro c s u v
  have hs : s.cursor.rest.dropWhile isBlank =
      '"' :: ['a', '\\', '"', '\\', '\\', '"', 'b'] := by decide +kernel
  have hu : u.cursor.rest.dropWhile isBlank =
      '"' :: ['\\', 'q', '\\', '"', '\\', 'z', '"', ' ', 'x'] := by decide +kernel
  have hv : v.cursor.rest.dropWhile isBlank =
      '"' :: ['\\', 'q', '\\', '\n', '"'] := by decide +kernel
  have hsstart : s.cursor.place.after (s.cursor.rest.takeWhile isBlank) = ⟨1, 0, 1⟩ := by
    decide +kernel
  have hustart : u.cursor.place.after (u.cursor.rest.takeWhile isBlank) = .origin := by
    decide +kernel
  have hvstart : v.cursor.place.after (v.cursor.rest.takeWhile isBlank) = .origin := by
    decide +kernel
  obtain ⟨sbehind, hsbody, hyields, -⟩ := (scan_string_exact hs).1 (by decide)
  obtain ⟨ubehind, hubody, -, hdrops⟩ := (scan_string_exact hu).1 (by decide)
  have hopen := (scan_string_exact hv).2 (by decide)
  refine ⟨?_, ?_, ?_⟩
  · have hknown : Quoted.AllKnown [.plain 'a', .pair '"', .pair '\\'] := by
      simp [Quoted.AllKnown, Quoted.escapable]
    obtain ⟨text, hspelled, hyield⟩ := hyields hknown
    cases hsbody
    have hparts : List.Forall₂ Spelled text [['a'], ['\\', '"'], ['\\', '\\']] := hspelled
    -- each of the spellings belongs to one character only
    obtain ⟨⟩ | ⟨⟨⟩, ⟨⟩ | ⟨⟨⟩, ⟨⟩ | ⟨⟨⟩, ⟨⟩⟩⟩⟩ := hparts
    rw [hsstart] at hyield
    exact hyield
  · have hdrop := hdrops [] 'q' [.pair '"', .pair 'z'] rfl (by simp [Quoted.AllKnown]) (by decide)
    cases hubody
    rw [hustart] at hdrop
    exact hdrop
  · rw [hvstart] at hopen
    exact hopen

end Scanner

end FrontEnd
