/-
# FrontEnd.Proofs.Scanner.Load — a load leaves nothing of the old text.

A load puts another cursor in place of the one there was, and keeps the count of errors and the
string table.  So a scanner that has loaded a file goes on as a new one over the text of the file
does: the two stay side by side for good, one of them having counted more errors (`Ahead.next`,
`Ahead.abreast`).  Where the disk does not give the text (`SourceFile.Refused`), what is left is a
scanner at the end of no text.
-/
import FrontEnd.Proofs.Scanner.Stream

namespace FrontEnd

/-! ## What the disk answers -/

namespace SourceFile

/-- The path leads to a regular file that holds the text `content`. -/
def Given (disk : Disk) (path content : String) : Prop :=
  ∃ entry, disk.find path = .ok entry ∧ entry.isFile = true ∧ disk.readText path = .ok content

/-- The disk does not give the text of the file at a path. -/
inductive Refused (disk : Disk) (path : String) : LoadError → Prop
  /-- The path leads nowhere. -/
  | missing : disk.find path = .error .notFound → Refused disk path (.notFound path)
  /-- The path leads to something else than a regular file. -/
  | otherwise {entry : Disk.Entry} :
      disk.find path = .ok entry → entry.isFile = false → Refused disk path (.notAFile path)
  /-- The path cannot be followed. -/
  | barred {fault : Fault} :
      disk.find path = .error fault → fault ≠ .notFound → Refused disk path (.unreadable path fault)
  /-- The file cannot be read as text. -/
  | unread {entry : Disk.Entry} {fault : Fault} :
      disk.find path = .ok entry → entry.isFile = true → disk.readText path = .error fault →
      Refused disk path (.unreadable path fault)

/-- A load gives what the disk gives, or the reason why it gives nothing. -/
theorem load_cases (disk : Disk) (path : String) :
    (∃ content, Given disk path content ∧ load disk path = .ok ⟨path, content⟩) ∨
      ∃ e, Refused disk path e ∧ load disk path = .error e := by
  unfold load
  split
  · rename_i hfind
    exact Or.inr ⟨_, .missing hfind, rfl⟩
  · rename_i fault hfault hfind
    exact Or.inr ⟨_, .barred hfind hfault, rfl⟩
  · rename_i entry hfind
    cases hfile : entry.isFile with
    | false => exact Or.inr ⟨_, .otherwise hfind hfile, rfl⟩
    | true =>
      rw [if_pos rfl]
      cases hread : disk.readText path with
      | error fault => exact Or.inr ⟨_, .unread hfind hfile hread, rfl⟩
      | ok content => exact Or.inl ⟨content, ⟨entry, hfind, hfile, hread⟩, rfl⟩

/-- How the code of a failed load reads in its report. -/
def LoadError.shownCode : LoadError → String
  | .notFound _ => "E0001"
  | .notAFile _ => "E0002"
  | .unreadable _ _ => "E0003"

theorem LoadError.display_code (e : LoadError) : e.code.display = e.shownCode := by
  have hmissing : Diagnostic.Code.sourceNotFound.display = "E0001" := by decide +kernel
  have hother : Diagnostic.Code.sourceNotAFile.display = "E0002" := by decide +kernel
  have hunread : Diagnostic.Code.sourceUnreadable.display = "E0003" := by decide +kernel
  cases e with
  | notFound path => exact hmissing
  | notAFile path => exact hother
  | unreadable path fault => exact hunread

end SourceFile

namespace Scanner

/-! ## Side by side -/

/-- The scanner stands where the other one does, before the same text and with the same strings
interned, but has counted `n` errors more. -/
structure Ahead (n : Nat) (s u : Scanner) : Prop where
  cursor : s.cursor = u.cursor
  strings : s.strings = u.strings
  errors : s.errors = n + u.errors

/-- Two scanners come further side by side: both hand out a token, or in between other things become
of their compilations, as long as the string tables stay the same. -/
inductive Abreast (s u : Scanner) : Scanner → Scanner → Prop
  | refl : Abreast s u s u
  | next {s' u' : Scanner} : Abreast s u s' u' → Abreast s u s'.next.2 u'.next.2
  | meanwhile {s' u' : Scanner} {c c' : Compilation} :
      c.strings = c'.strings → Abreast s u s' u' →
      Abreast s u { s' with compilation := c } { u' with compilation := c' }

/-- The scanner with more errors counted. -/
def counting (s : Scanner) (n : Nat) : Scanner := { s with errors := n + s.errors }

theorem accept_counting (s : Scanner) (n : Nat) (reading : Reading) (span : Span) :
    (s.counting n).accept reading span =
      ((s.accept reading span).1, (s.accept reading span).2.counting n) := by
  cases reading with
  | comment => rfl
  | malformed e => rfl
  | token kind payload => cases payload <;> rfl

theorem scan_counting (s : Scanner) (n : Nat) :
    (s.counting n).scan = (s.scan.1, s.scan.2.counting n) := by
  have hcursor : (s.counting n).cursor = s.cursor := rfl
  unfold scan
  dsimp only
  rw [hcursor]
  split
  · rfl
  · rename_i c cs _
    let stop := (s.cursor.eatWhile CharClass.isBlank).advanceBy (Lexeme.read c cs).text.length
    exact accept_counting { s with cursor := stop } n _ _

/-- The errors counted before make no difference to what is handed out. -/
theorem next_counting (s : Scanner) (n : Nat) :
    (s.counting n).next = (s.next.1, s.next.2.counting n) := by
  fun_induction next s with
  | case1 s t s' hscan =>
    have hcounting := s.scan_counting n
    rw [hscan] at hcounting
    exact next_of_scan_some hcounting
  | case2 s s' hscan ih =>
    have hcounting := s.scan_counting n
    rw [hscan] at hcounting
    rw [next_of_scan_none hcounting, ih]

section

variable {n : Nat} {s u s' u' : Scanner}

theorem Ahead.next (h : Ahead n s u) : s.next.1 = u.next.1 ∧ Ahead n s.next.2 u.next.2 := by
  let v : Scanner := { s with errors := u.errors }
  have hstep : v.InStep u := ⟨h.cursor, h.strings, rfl⟩
  have hs : s = v.counting n := by
    obtain ⟨compilation, cursor, errors⟩ := s
    obtain rfl : errors = n + u.errors := h.errors
    rfl
  obtain ⟨htoken, hcursor, hstrings, herrors⟩ := hstep.next
  rw [hs, next_counting]
  exact ⟨htoken, hcursor, hstrings, congrArg (n + ·) herrors⟩

theorem Ahead.abreast (h : Ahead n s u) (hs : s.Abreast u s' u') : Ahead n s' u' := by
  induction hs with
  | refl => exact h
  | next _ ih => exact ih.next.2
  | meanwhile hstrings _ ih => exact ⟨ih.cursor, hstrings, ih.errors⟩

end

/-! ## Loading -/

theorem load_of_ok {s : Scanner} {path : String} {file : SourceFile}
    (h : SourceFile.load s.compilation.host.disk path = .ok file) :
    s.load path = (.ok file.bytes,
      ⟨s.compilation.tell (.loaded path file.bytes), .ofString file.content, s.errors⟩) := by
  rw [load, h]

theorem load_of_error {s : Scanner} {path : String} {e : SourceFile.LoadError}
    (h : SourceFile.load s.compilation.host.disk path = .error e) :
    s.load path = (.error e,
      ⟨s.compilation.report .error e.message (some e.code) none, .empty, s.errors⟩) := by
  rw [load, h]

/-- In whatever state a scanner loads a file, one of two things happens.  The disk gives the text of
the file: then the load gives its length, and from there on the scanner hands out the same tokens and
has the same cursor as a new scanner over that text whose compilation has the same string table; its
count of errors goes on from what it was.  Or the disk does not give the text: then there is one error
on record, which has no span and the code that goes with the reason, nothing is left to scan, and the
end token comes out in front of everything until something else is loaded; the count of errors and
the string table with its counts are what they were. -/
theorem load_isolates (s : Scanner) (path : String) :
    let disk := s.compilation.host.disk
    let result := s.load path
    (∃ content, SourceFile.Given disk path content ∧ result.1 = .ok content.utf8ByteSize ∧
        result.2.records = s.records ∧
        ∀ c : Compilation, c.strings = s.strings →
          ∀ t u, result.2.Abreast (ofText c content) t u →
            t.next.1 = u.next.1 ∧ Ahead s.errors t u) ∨
      ∃ e, SourceFile.Refused disk path e ∧ result.1 = .error e ∧
        (∃ d : Diagnostic, result.2.records = s.records ++ [d] ∧
          d.content = ⟨.error, e.message, some e.code, none⟩ ∧ e.code.display = e.shownCode) ∧
        result.2.cursor = ⟨"", [], ⟨0, 0, 0⟩⟩ ∧
        (∀ u, result.2.Onward u →
          u.next.1 = ⟨.endOfText, none, ⟨0, 0, 0, 0⟩⟩ ∧ u.cursor = result.2.cursor) ∧
        result.2.errors = s.errors ∧ result.2.strings = s.strings := by
  intro disk result
  rcases SourceFile.load_cases disk path with ⟨content, hgiven, hload⟩ | ⟨e, hrefused, hload⟩
  · have hresult : result = _ := load_of_ok hload
    rw [hresult]
    refine Or.inl ⟨content, hgiven, rfl, rfl, ?_⟩
    intro c hstrings t u htogether
    let c' := s.compilation.tell (.loaded path content.utf8ByteSize)
    have hstart : Ahead s.errors ⟨c', .ofString content, s.errors⟩ (ofText c content) :=
      ⟨rfl, hstrings.symm, rfl⟩
    have hahead : Ahead s.errors t u := hstart.abreast htogether
    exact ⟨hahead.next.1, hahead⟩
  · have hresult : result = _ := load_of_error hload
    rw [hresult]
    obtain ⟨d, hcontent, hrecords⟩ :=
      journal_report s.compilation ⟨.error, e.message, some e.code, none⟩
    refine Or.inr ⟨e, hrefused, rfl, ⟨d, hrecords, hcontent, e.display_code⟩, rfl, ?_, rfl, rfl⟩
    intro u honward
    have hcursor := honward.cursor_eq rfl
    have hrepeats : u.Repeats u.endToken := repeats_of_rest_nil (by rw [hcursor]; rfl)
    refine ⟨?_, hcursor⟩
    rw [hrepeats.token, endToken, hcursor]
    rfl

end Scanner

end FrontEnd
