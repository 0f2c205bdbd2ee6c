/-
# FrontEnd.Proofs.Scanner.LineEnding — a line may end with a carriage return and a newline.

Some systems end each line with a carriage return in front of the newline, others with the newline
alone.  `withReturns` goes from the second kind to the first.  Nothing is to be seen of the
difference: tokens and reports are the same, in the same lines and columns, and so are the lines of
the file (`run_withReturns`).

Where the carriage return ends up depends on what ends its line (`Lexeme.Reads.withReturns_or`).  Behind
a compact piece it is a blank; a block comment takes it in like any other character.  A piece that
fills its line takes it in too, at its very end, and reads the same with it.
-/
import FrontEnd.Proofs.Lexeme.Ending
import FrontEnd.Proofs.Scanner.Sight
import FrontEnd.Proofs.SourceFile

namespace FrontEnd

open CharClass

/-! ## Carriage returns in a text -/

/-- The text with a carriage return in front of each newline. -/
def withReturns (cs : List Char) : List Char :=
  cs.flatMap fun c => if c = '\n' then ['\r', '\n'] else [c]

theorem withReturns_newline (cs : List Char) :
    withReturns ('\n' :: cs) = '\r' :: '\n' :: withReturns cs := rfl

theorem withReturns_cons {c : Char} (hc : c ≠ '\n') (cs : List Char) :
    withReturns (c :: cs) = c :: withReturns cs := by
  rw [withReturns, List.flatMap_cons, if_neg hc]
  rfl

theorem withReturns_append (a b : List Char) :
    withReturns (a ++ b) = withReturns a ++ withReturns b := List.flatMap_append

/-- Within a line there is nothing to do. -/
theorem withReturns_of_not_mem {cs : List Char} (h : '\n' ∉ cs) : withReturns cs = cs := by
  induction cs with
  | nil => rfl
  | cons c cs ih =>
    rw [withReturns_cons (List.ne_of_not_mem_cons h).symm, ih (List.not_mem_of_not_mem_cons h)]

theorem head?_withReturns (cs : List Char) :
    (withReturns cs).head? = cs.head?.map fun c => if c = '\n' then '\r' else c := by
  cases cs with
  | nil => rfl
  | cons c cs =>
    by_cases hc : c = '\n'
    · subst hc
      rfl
    · rw [withReturns_cons hc]
      simp [hc]

theorem isBlank_of_mem_withReturns {cs : List Char} (h : ∀ c ∈ cs, isBlank c = true) :
    ∀ c ∈ withReturns cs, isBlank c = true := by
  intro c hc
  obtain ⟨d, hd, hmem⟩ := List.mem_flatMap.mp hc
  split at hmem
  · rcases List.mem_pair.mp hmem with rfl | rfl <;> rfl
  · rw [List.mem_singleton.mp hmem]
    exact h d hd

/-- Carriage returns at the ends of lines lead to the same line and column. -/
theorem Place.Aligned.after_withReturns {p q : Place} (h : p.Aligned q) (cs : List Char) :
    (p.after (withReturns cs)).Aligned (q.after cs) := by
  induction cs generalizing p q with
  | nil => exact h
  | cons c cs ih =>
    by_cases hc : c = '\n'
    · subst hc
      rw [withReturns_newline]
      apply ih
      exact ⟨congrArg (· + 1) h.line, rfl⟩
    · rw [withReturns_cons hc]
      exact ih (h.step c)

/-! ## Pieces -/

/-- No closing mark comes about. -/
theorem Comment.infix_of_infix_withReturns {cs : List Char}
    (h : closingMark <:+: withReturns cs) : closingMark <:+: cs := by
  induction cs with
  | nil => exact h
  | cons c cs ih =>
    by_cases hc : c = '\n'
    · subst hc
      rw [withReturns_newline] at h
      rcases List.infix_cons_iff.mp h with hpre | hin
      · exact absurd (List.cons_prefix_cons.mp hpre).1 (by decide)
      rcases List.infix_cons_iff.mp hin with hpre | hin
      · exact absurd (List.cons_prefix_cons.mp hpre).1 (by decide)
      · exact List.infix_cons (ih hin)
    · rw [withReturns_cons hc] at h
      rcases List.infix_cons_iff.mp h with hpre | hin
      · -- The slash of the mark is not put in, so it was there before.
        obtain ⟨rfl, rest, hrest⟩ := List.cons_prefix_cons.mp hpre
        have hhead := head?_withReturns cs
        rw [← hrest] at hhead
        obtain ⟨d, hd, hslash⟩ := Option.map_eq_some_iff.mp hhead.symm
        obtain ⟨ds, rfl⟩ := List.head?_eq_some_iff.mp hd
        split at hslash
        · exact absurd hslash (by decide)
        · subst hslash
          exact List.IsPrefix.isInfix ⟨ds, rfl⟩
      · exact List.infix_cons (ih hin)

theorem Comment.isOpen_withReturns {body : List Char} (h : IsOpen body) :
    IsOpen (withReturns body) := fun hin => h (infix_of_infix_withReturns hin)

theorem Comment.isClosed_withReturns {body : List Char} (h : IsClosed body) :
    IsClosed (withReturns body) := by
  obtain ⟨inner, rfl, hinner⟩ := h
  refine ⟨withReturns inner, withReturns_append _ _, ?_⟩
  intro hin
  exact hinner (infix_of_infix_withReturns hin)

/-- With carriage returns a piece reads the same, unless it goes on to the end of its line.  Then it
reads the same when it takes in the carriage return behind it. -/
theorem Lexeme.Reads.withReturns_or {text rest : List Char} {reading : Reading}
    (h : Lexeme.Reads text rest.head? reading) :
    Lexeme.Reads (withReturns text) (withReturns rest).head? reading ∨
      ∃ more, rest = '\n' :: more ∧
        Lexeme.Reads (withReturns text ++ ['\r']) (some '\n') reading := by
  rw [head?_withReturns]
  rcases h.ending with hcompact | ⟨hline, hfills⟩ | hblock
  · left
    rw [withReturns_of_not_mem hcompact.newline_not_mem]
    cases hnext : rest.head? with
    | none =>
      rw [hnext] at h
      exact h
    | some c =>
      by_cases hc : c = '\n'
      · apply hcompact.reads
        rintro d ⟨⟩
        simp [hc, isBlank_iff]
      · rw [hnext] at h
        simpa [hc] using h
  · rw [withReturns_of_not_mem hfills.newline_not_mem]
    cases rest with
    | nil => exact Or.inl h
    | cons c more =>
      obtain rfl := hline c rfl
      exact Or.inr ⟨more, rfl, hfills.reads_return _ endsLine_newline⟩
  · left
    generalize hnext : rest.head? = next at hblock
    cases hblock with
    | closed hclosed => exact .blockComment (Comment.isClosed_withReturns hclosed)
    | unclosed hopen => exact .openComment (Comment.isOpen_withReturns hopen)

/-- With carriage returns, a text falls into pieces of the same sights. -/
theorem Splits.exists_withReturns {p q : Place} {cs : List Char} {xs : List Piece} (h : Splits p cs xs)
    (hq : q.Aligned p) :
    ∃ ys, Splits q (withReturns cs) ys ∧
      ys.filterMap Piece.sight? = xs.filterMap Piece.sight? := by
  induction h generalizing q with
  | blank hblanks => exact ⟨[], .blank (isBlank_of_mem_withReturns hblanks), rfl⟩
  | @piece blanks rest x xs p hblanks hplace hreads _ ih =>
    let start := q.after (withReturns blanks)
    have hstart : start.Aligned x.place := by
      rw [hplace]
      exact hq.after_withReturns blanks
    obtain ⟨ys, hys, hsame⟩ := ih (hstart.after_withReturns x.text)
    have hsights (text : List Char) :
        ((⟨start, text, x.reading⟩ : Piece) :: ys).filterMap Piece.sight? =
          (x :: xs).filterMap Piece.sight? := by
      have hsight : (⟨start, text, x.reading⟩ : Piece).sight? = x.sight? :=
        Piece.sight?_eq rfl hstart
      rw [List.filterMap_cons, List.filterMap_cons, hsight, hsame]
    have hgap := isBlank_of_mem_withReturns hblanks
    rw [withReturns_append, withReturns_append]
    rcases hreads.withReturns_or with hreads' | ⟨more, rfl, hreads'⟩
    · let y : Piece := ⟨start, withReturns x.text, x.reading⟩
      exact ⟨y :: ys, .piece (x := y) hgap rfl hreads' hys, hsights _⟩
    · -- The carriage return is in the piece now, and no longer in front of what comes behind it.
      let y : Piece := ⟨start, withReturns x.text ++ ['\r'], x.reading⟩
      have hbehind : Splits y.stop ('\n' :: withReturns more) ys := by
        rw [Piece.stop, Place.after_append]
        exact hys.drop_blank rfl
      refine ⟨y :: ys, ?_, hsights _⟩
      have hcut : withReturns x.text ++ withReturns ('\n' :: more) =
          y.text ++ '\n' :: withReturns more := by
        rw [withReturns_newline, List.append_assoc]
        rfl
      rw [hcut]
      exact .piece (x := y) hgap rfl hreads' hbehind

/-! ## Lines of a file -/

namespace SourceFile

theorem map_dropReturn_splitLines_cons {c : Char} (hline : c ≠ '\n') (hreturn : c ≠ '\r')
    (cs : List Char) :
    (splitLines (c :: cs)).map dropReturn =
      ((splitLines cs).map dropReturn).modifyHead (c :: ·) := by
  obtain ⟨line, lines, hlines⟩ := exists_splitLines_eq_cons cs
  have hkept : dropReturn (c :: line) = c :: dropReturn line := by
    apply dropReturn_append (a := [c])
    simpa using hreturn
  rw [splitLines_cons hline, hlines, List.modifyHead_cons, List.map_cons, List.map_cons, hkept]
  rfl

/-- A text without carriage returns of its own keeps its lines when it gets them at line ends. -/
theorem map_dropReturn_splitLines_withReturns {cs : List Char} (h : '\r' ∉ cs) :
    (splitLines (withReturns cs)).map dropReturn = (splitLines cs).map dropReturn := by
  induction cs with
  | nil => rfl
  | cons c cs ih =>
    have hreturn : c ≠ '\r' := (List.ne_of_not_mem_cons h).symm
    have hsame := ih (List.not_mem_of_not_mem_cons h)
    by_cases hc : c = '\n'
    · subst hc
      exact congrArg ([] :: ·) hsame
    · rw [withReturns_cons hc, map_dropReturn_splitLines_cons hc hreturn,
        map_dropReturn_splitLines_cons hc hreturn, hsame]

theorem line_withReturns (f f' : SourceFile) (hreturn : '\r' ∉ f.content.toList)
    (hcontent : f'.content.toList = withReturns f.content.toList) (n : Nat) :
    f'.line n = f.line n := by
  have hline (g : SourceFile) :
      g.line n = (((splitLines g.content.toList).map dropReturn)[n]?).map .ofList := by
    rw [line, List.getElem?_map, Option.map_map]
    rfl
  rw [hline, hline, hcontent, map_dropReturn_splitLines_withReturns hreturn]

end SourceFile

namespace Scanner

/-- A text and the same text with a carriage return in front of each newline give the same tokens and
reports to see, wherever and in whatever compilation they are scanned.  As files they have the same
lines, provided that no carriage return was there before. -/
theorem run_withReturns (c c' : Compilation) (source : String) :
    let returned := String.ofList (withReturns source.toList)
    let s := ofText c source
    let v := ofText c' returned
    v.tokenSightings = s.tokenSightings ∧ v.reportSightings = s.reportSightings ∧
      ('\r' ∉ source.toList → ∀ path path' n,
        SourceFile.line ⟨path', returned⟩ n = SourceFile.line ⟨path, source⟩ n) := by
  intro returned s v
  have hreturned : returned.toList = withReturns source.toList := String.toList_ofList
  clear_value returned
  obtain ⟨xs, hxs⟩ := exists_splits .origin source.toList
  obtain ⟨ys, hys, hsights⟩ := hxs.exists_withReturns (.refl .origin)
  have hv : Splits v.cursor.place v.cursor.rest ys := by
    show Splits .origin returned.toList ys
    rw [hreturned]
    exact hys
  have hend : (Place.origin.after returned.toList).Aligned (Place.origin.after source.toList) := by
    rw [hreturned]
    exact (Place.Aligned.refl _).after_withReturns _
  obtain ⟨htokens, hreports⟩ := sightings_eq (s := s) (u := v) hxs hv hsights hend
  refine ⟨htokens, hreports, ?_⟩
  intro hsource path path' n
  exact SourceFile.line_withReturns ⟨path, source⟩ ⟨path', returned⟩ hsource hreturned n

/-- The lines end in a comment, behind a lone backslash in a string literal, and in a block comment
that is never closed. -/
theorem run_withReturns_three_ends :
    let c : Compilation := .withoutLog .standard (.ofDisk .fresh fun _ => 0)
    let s := ofText c "a // b\n\"c\\\n/* d\n"
    let v := ofText c "a // b\r\n\"c\\\r\n/* d\r\n"
    '\r' ∉ "a // b\n\"c\\\n/* d\n".toList ∧ v.tokenSightings = s.tokenSightings ∧
      v.tokenSightings = [⟨.identifier, "a", 0, 0⟩, ⟨.endOfText, "", 3, 0⟩] ∧
      v.reportSightings = s.reportSightings ∧
      v.reportSightings.map (·.position) = [some (1, 0), some (2, 0)] ∧
      SourceFile.line ⟨"crlf", "a // b\r\n\"c\\\r\n/* d\r\n"⟩ 1 =
        SourceFile.line ⟨"lf", "a // b\n\"c\\\n/* d\n"⟩ 1 := by
  intro c s v
  have hnone : '\r' ∉ "a // b\n\"c\\\n/* d\n".toList := by decide
  obtain ⟨htokens, hreports, hline⟩ := run_withReturns c c "a // b\n\"c\\\n/* d\n"
  exact ⟨hnone, htokens, by decide +kernel, hreports, by decide +kernel, hline hnone _ _ 1⟩

end Scanner

end FrontEnd
