/-
# FrontEnd.Scanner — source text as a stream of tokens.

A scanner walks over one text at a time, piece by piece.  Blanks and comments pass in silence, a
malformed piece is reported and skipped, and a token comes out with its text interned where its
kind carries one.  When the text has run out, the scanner hands out the end token, and goes on
doing so until another text is loaded.

`Scanner.scan` deals with one piece.  `Scanner.next` repeats it up to the next token; it comes to
an end because a piece that yields no token leaves less text (`Scanner.rest_scan_lt`).
-/
import FrontEnd.Compilation
import FrontEnd.Cursor
import FrontEnd.Lexeme
import FrontEnd.SourceFile
import FrontEnd.Token

namespace FrontEnd

/-- A compilation with the text it is scanning, and how many pieces were malformed so far. -/
structure Scanner where
  compilation : Compilation
  cursor : Cursor
  errors : Nat

namespace Scanner

/-- A scanner in front of a text. -/
def ofText (compilation : Compilation) (source : String) : Scanner :=
  ⟨compilation, .ofString source, 0⟩

/-- A scanner without a text. -/
def empty (compilation : Compilation) : Scanner := ⟨compilation, .empty, 0⟩

/-- Whether any piece was malformed. -/
def hasErrors (s : Scanner) : Bool := s.errors > 0

/-- The string table that tokens get their symbols from. -/
def strings (s : Scanner) : Symbol.Table := s.compilation.strings

/-- Reports a malformed piece; the position is part of the wording. -/
def report (s : Scanner) (e : LexicalError) (span : Span) : Scanner :=
  { s with
    compilation :=
      s.compilation.report .error (e.message ++ " at " ++ span.display) (some e.code) (some span)
    errors := s.errors + 1 }

/-- The token of a piece, if it is one; its text is interned where the kind carries one. -/
def accept (s : Scanner) (reading : Reading) (span : Span) : Option Token × Scanner :=
  match reading with
  | .comment => (none, s)
  | .malformed e => (none, s.report e span)
  | .token kind none => (some ⟨kind, none, span⟩, s)
  | .token kind (some text) =>
    let (symbol, compilation) := s.compilation.intern (.ofList text)
    (some ⟨kind, some symbol, span⟩, { s with compilation := compilation })

/-- Skips blanks and reads one piece.  There is no token if it was a comment or malformed. -/
def scan (s : Scanner) : Option Token × Scanner :=
  let start := s.cursor.eatWhile CharClass.isBlank
  match start.rest with
  | [] => (some ⟨.endOfText, none, start.point⟩, { s with cursor := start })
  | c :: cs =>
    let lexeme := Lexeme.read c cs
    let stop := start.advanceBy lexeme.text.length
    { s with cursor := stop }.accept lexeme.reading (.between start.place stop.place)

/-! ## Progress -/

@[simp]
theorem cursor_report (s : Scanner) (e : LexicalError) (span : Span) :
    (s.report e span).cursor = s.cursor := rfl

@[simp]
theorem cursor_accept (s : Scanner) (reading : Reading) (span : Span) :
    (s.accept reading span).2.cursor = s.cursor := by
  unfold accept
  split <;> rfl

/-- With nothing but blanks left, the end token comes out. -/
theorem scan_of_nil {s : Scanner} (h : s.cursor.rest.dropWhile CharClass.isBlank = []) :
    ∃ token, s.scan.1 = some token ∧ token.isEnd = true := by
  simp only [scan, Cursor.rest_eatWhile]
  split
  · exact ⟨_, rfl, rfl⟩
  · rename_i h'
    rw [h] at h'
    cases h'

/-- With more than blanks left, what remains is what follows them and one piece. -/
theorem rest_scan_of_cons {s : Scanner} {c : Char} {cs : List Char}
    (h : s.cursor.rest.dropWhile CharClass.isBlank = c :: cs) :
    s.scan.2.cursor.rest = (c :: cs).drop (Lexeme.read c cs).text.length := by
  simp only [scan, Cursor.rest_eatWhile]
  split
  · rename_i h'
    rw [h] at h'
    cases h'
  · rename_i h'
    rw [h] at h'
    cases h'
    simp [h]

/-- Unless the end token comes out, less text is left. -/
theorem rest_scan_lt {s : Scanner} (h : ∀ token, s.scan.1 = some token → token.isEnd = false) :
    s.scan.2.cursor.rest.length < s.cursor.rest.length := by
  cases hr : s.cursor.rest.dropWhile CharClass.isBlank with
  | nil =>
    obtain ⟨token, ht, hEnd⟩ := scan_of_nil hr
    rw [h token ht] at hEnd
    cases hEnd
  | cons c cs =>
    have hle := (List.dropWhile_sublist CharClass.isBlank (l := s.cursor.rest)).length_le
    have hpos := List.length_pos_iff.mpr (Lexeme.text_read_ne_nil c cs)
    rw [hr] at hle
    rw [rest_scan_of_cons hr, List.length_drop]
    simp only [List.length_cons] at hle ⊢
    omega

/-! ## Tokens -/

/-- Announces a token to the event stream. -/
def announce (s : Scanner) (token : Token) : Scanner :=
  { s with compilation := s.compilation.tell (.scanned (token.display s.strings)) }

@[simp]
theorem cursor_announce (s : Scanner) (token : Token) :
    (s.announce token).cursor = s.cursor := rfl

/-- The next token. -/
def next (s : Scanner) : Token × Scanner :=
  match _h : s.scan with
  | (some token, s') => (token, s'.announce token)
  | (none, s') => s'.next
termination_by s.cursor.rest.length
decreasing_by
  have := rest_scan_lt (s := s) (by simp [_h])
  simpa [_h] using this

/-- Unless the end token comes out, less text is left. -/
theorem rest_next_lt {s : Scanner} (h : s.next.1.isEnd = false) :
    s.next.2.cursor.rest.length < s.cursor.rest.length := by
  fun_induction next s with
  | case1 s token s' hs =>
    have := rest_scan_lt (s := s) (by simpa [hs] using h)
    simpa [hs] using this
  | case2 s s' hs ih =>
    have := rest_scan_lt (s := s) (by simp [hs])
    rw [hs] at this
    exact Nat.lt_trans (ih h) this

/-- All tokens up to the end token, which comes last. -/
def run (s : Scanner) : List Token × Scanner :=
  match _h : s.next with
  | (token, s') =>
    if token.isEnd then ([token], s')
    else
      let (tokens, s'') := s'.run
      (token :: tokens, s'')
termination_by s.cursor.rest.length
decreasing_by
  have := rest_next_lt (s := s) (by simp_all)
  simpa [_h] using this

/-- The next token, unless it is the end token. -/
def nextBeforeEnd (s : Scanner) : Option Token × Scanner :=
  let (token, s) := s.next
  (if token.isEnd then none else some token, s)

/-- All tokens in front of the end token, which is read as well. -/
def collect (s : Scanner) : List Token × Scanner :=
  let (tokens, s) := s.run
  (tokens.dropLast, s)

/-! ## Taking in files -/

/-- Puts the text of a file in place of the text being scanned, and gives its length in bytes.  If
the file cannot be loaded, that is reported and the scanner is left without a text. -/
def load (s : Scanner) (path : String) : Except SourceFile.LoadError Nat × Scanner :=
  match SourceFile.load s.compilation.host.disk path with
  | .ok file =>
    (.ok file.bytes,
      { s with
        cursor := .ofString file.content
        compilation := s.compilation.tell (.loaded path file.bytes) })
  | .error e =>
    (.error e,
      { s with
        cursor := .empty
        compilation := s.compilation.report .error e.message (some e.code) none })

end Scanner

end FrontEnd
