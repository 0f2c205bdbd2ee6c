/-
# FrontEnd.Proofs.Scanner.Comment — a comment is so many blanks.

Write a space for each character of a comment and leave its newlines where they are.  Then the text
behind it still starts in the same line and column, and falls into the same pieces as before.  So
does the text in front: the last piece there had the slash of the comment behind it, and a piece
that ends in front of a slash ends in front of a blank too (`Lexeme.Reads.blank_behind`).  No piece
but the comment gets lost (`Splits.exchange`).

`run_blanked` says so of a comment that a scanner has been seen to skip; `Passing` is where it can be
seen, between any two passes of a run.
-/
import FrontEnd.Proofs.Lexeme.Ending
import FrontEnd.Proofs.Place
import FrontEnd.Proofs.Scanner.Progress
import FrontEnd.Proofs.Scanner.Sight

namespace FrontEnd

open CharClass

/-! ## Blanks in place of a text -/

/-- A space for each character of a text, and newlines as they are. -/
def blanked (cs : List Char) : List Char := cs.map fun c => if c = '\n' then '\n' else ' '

theorem isBlank_of_mem_blanked {cs : List Char} : ∀ c ∈ blanked cs, isBlank c = true := by
  intro c hc
  obtain ⟨d, -, rfl⟩ := List.mem_map.mp hc
  split <;> rfl

/-- Blanks lead to the same line and column as the text they stand for. -/
theorem Place.Aligned.after_blanked {p q : Place} (h : p.Aligned q) (cs : List Char) :
    (p.after (blanked cs)).Aligned (q.after cs) := by
  induction cs generalizing p q with
  | nil => exact h
  | cons c cs ih =>
    obtain ⟨hline, hcolumn⟩ := h
    apply ih
    by_cases hc : c = '\n'
    · exact ⟨by simp [Place.step, hc, hline], by simp [Place.step, hc]⟩
    · exact ⟨by simp [Place.step, hc, hline], by simp [Place.step, hc, hcolumn]⟩

/-! ## Exchanging a piece for blanks -/

/-- What reads as a piece in front of a character that is no blank reads so in front of any blank. -/
theorem Lexeme.Reads.blank_behind {text : List Char} {c : Char} {next : Option Char}
    {reading : Reading} (h : Lexeme.Reads text (some c) reading) (hc : isBlank c = false)
    (hnext : ∀ d ∈ next, isBlank d = true) : Lexeme.Reads text next reading := by
  rcases h.ending with hcompact | ⟨hline, -⟩ | hblock
  · exact hcompact.reads next hnext
  · -- what fills its line has a newline behind it, which is a blank
    obtain rfl := hline c rfl
    cases hc
  · cases hblock with
    | closed hclosed => exact .blockComment hclosed

/-- Blanks can take the place of a piece: the pieces in front of it stay, and behind the blanks come
whatever pieces the text behind it falls into there. -/
theorem Splits.exchange {p : Place} {cs : List Char} {xs ys : List Piece} {x : Piece}
    (h : Splits p cs (xs ++ x :: ys)) :
    ∃ before behind, cs = before ++ (x.text ++ behind) ∧ x.place = p.after before ∧
      Splits x.stop behind ys ∧ ∀ blanks zs, blanks ≠ [] → (∀ c ∈ blanks, isBlank c = true) →
        Splits (x.place.after blanks) behind zs →
        Splits p (before ++ (blanks ++ behind)) (xs ++ zs) := by
  obtain ⟨_, _, -, -, hx⟩ := h.exists_reads x (by simp)
  obtain ⟨c, ds, htext, hc⟩ := hx.exists_cons
  induction xs generalizing p cs with
  | nil =>
    obtain ⟨gap, rest, rfl, hgap, hplace, -, hrest⟩ := splits_cons_iff.mp h
    refine ⟨gap, rest, rfl, hplace, hrest, ?_⟩
    intro blanks zs _ hblanks hzs
    rw [hplace] at hzs
    exact .prepend_blanks hgap (.prepend_blanks hblanks hzs)
  | cons y xs ih =>
    obtain ⟨gap, rest, rfl, hgap, hplace, hreads, hrest⟩ := splits_cons_iff.mp h
    obtain ⟨before, behind, rfl, hstart, hbehind, hexchange⟩ := ih hrest
    refine ⟨gap ++ (y.text ++ before), behind, by simp only [List.append_assoc], ?_, hbehind, ?_⟩
    · rw [Place.after_append, Place.after_append, ← hplace]
      exact hstart
    · intro blanks zs hne hblanks hzs
      -- Only a piece right in front of the exchanged one sees another character behind it now.
      have hreads' : Lexeme.Reads y.text (before ++ (blanks ++ behind)).head? y.reading := by
        cases before with
        | nil =>
          obtain ⟨d, blanks, rfl⟩ := List.exists_cons_of_ne_nil hne
          rw [htext] at hreads
          apply hreads.blank_behind hc
          rintro e ⟨⟩
          exact hblanks d List.mem_cons_self
        | cons d before => exact hreads
      rw [List.append_assoc, List.append_assoc]
      exact .piece hgap hplace hreads' (hexchange blanks zs hne hblanks hzs)

/-- A comment can be blanked without a difference to be seen. -/
theorem Splits.blank_comment {p : Place} {cs : List Char} {xs ys : List Piece} {x : Piece}
    (h : Splits p cs (xs ++ x :: ys)) (hx : x.reading = .comment) :
    ∃ before behind zs, cs = before ++ (x.text ++ behind) ∧ x.place = p.after before ∧
      Splits p (before ++ (blanked x.text ++ behind)) zs ∧
      zs.filterMap Piece.sight? = (xs ++ x :: ys).filterMap Piece.sight? := by
  obtain ⟨_, _, -, -, hreads⟩ := h.exists_reads x (by simp)
  obtain ⟨c, ds, htext, -⟩ := hreads.exists_cons
  have hne : blanked x.text ≠ [] := by simp [blanked, htext]
  obtain ⟨before, behind, hcs, hplace, hys, hexchange⟩ := h.exchange
  have haligned : (x.place.after (blanked x.text)).Aligned x.stop :=
    (Place.Aligned.refl x.place).after_blanked x.text
  obtain ⟨zs, hzs, hsights⟩ := hys.realign haligned
  have hblanked := hexchange _ zs hne isBlank_of_mem_blanked hzs
  refine ⟨before, behind, xs ++ zs, hcs, hplace, hblanked, ?_⟩
  rw [List.filterMap_append, List.filterMap_append, hsights,
    List.filterMap_cons_none (Piece.sight?_of_comment hx)]

namespace Scanner

/-! ## Between the passes of a run -/

/-- Where a scanner stands in front of a pass, when it has come from `s` by passing over pieces and
handing out tokens. -/
inductive Passing (s : Scanner) : Scanner → Prop
  | start : Passing s s
  | silent {u u' : Scanner} : Passing s u → u.scan = (none, u') → Passing s u'
  | token {u u' : Scanner} {t : Token} :
      Passing s u → u.scan = (some t, u') → Passing s (u'.announce t)

section

variable {s s' u : Scanner} {xs : List Piece}

/-- Calls for tokens lead from pass to pass. -/
theorem Passing.next (h : s.Passing u) : s.Passing u.next.2 := by
  fun_induction Scanner.next u with
  | case1 u token u' hscan => exact .token h hscan
  | case2 u u' hscan ih => exact ih (.silent h hscan)

/-- A pass takes off a piece in front, if there is one. -/
theorem exists_splits_scan (h : Splits s.cursor.place s.cursor.rest xs) :
    ∃ passed left, xs = passed ++ left ∧
      Splits s.scan.2.cursor.place s.scan.2.cursor.rest left := by
  cases xs with
  | nil =>
    rw [scan_of_splits_nil h]
    exact ⟨[], [], rfl, .blank (List.forall_mem_nil _)⟩
  | cons x xs =>
    obtain ⟨rest, hrest, -, hscan⟩ := scan_of_splits_cons h
    rw [hscan, cursor_accept]
    exact ⟨[x], xs, rfl, hrest⟩

/-- In front of each pass, some pieces have been passed and the others are left. -/
theorem Passing.exists_splits (h : s.Passing u) (hxs : Splits s.cursor.place s.cursor.rest xs) :
    ∃ passed left, xs = passed ++ left ∧ Splits u.cursor.place u.cursor.rest left := by
  -- announcing a token leaves the cursor alone, so both kinds of passes are alike
  have hstep {v v' : Scanner} {t : Option Token} (passed : List Piece) {left : List Piece}
      (hv : Splits v.cursor.place v.cursor.rest left) (hscan : v.scan = (t, v')) :
      ∃ passed' left', passed ++ left = passed' ++ left' ∧
        Splits v'.cursor.place v'.cursor.rest left' := by
    obtain ⟨more, left', rfl, hleft⟩ := exists_splits_scan hv
    rw [hscan] at hleft
    exact ⟨passed ++ more, left', (List.append_assoc _ _ _).symm, hleft⟩
  induction h with
  | start => exact ⟨[], xs, rfl, hxs⟩
  | silent _ hscan ih =>
    obtain ⟨passed, left, rfl, hleft⟩ := ih
    exact hstep passed hleft hscan
  | token _ hscan ih =>
    obtain ⟨passed, left, rfl, hleft⟩ := ih
    have hnext := hstep passed hleft hscan
    exact hnext

/-- Behind each of the pieces there is a pass to start from. -/
theorem exists_passing {passed left : List Piece}
    (h : Splits s.cursor.place s.cursor.rest (passed ++ left)) :
    ∃ u, s.Passing u ∧ Splits u.cursor.place u.cursor.rest left := by
  -- the piece passed last comes last in a run, so the induction starts from that end
  induction passed using List.reverseRecOn generalizing left with
  | nil => exact ⟨s, .start, h⟩
  | append_singleton passed x ih =>
    rw [List.append_assoc] at h
    obtain ⟨u, hu, hx⟩ := ih h
    obtain ⟨rest, hrest, -, hscan⟩ := scan_of_splits_cons hx
    rcases hpass : u.scan with ⟨token, u'⟩
    have hcursor : u'.cursor = ⟨u.cursor.source, rest, x.stop⟩ :=
      cursor_of_accept (hscan.symm.trans hpass)
    have hleft : Splits u'.cursor.place u'.cursor.rest left := by
      rw [hcursor]
      exact hrest
    cases token with
    | none => exact ⟨u', .silent hu hpass, hleft⟩
    | some t => exact ⟨u'.announce t, .token hu hpass, hleft⟩

/-- A pass that hands out no token and counts no error has skipped a comment. -/
theorem exists_comment_of_scan (h : Splits s.cursor.place s.cursor.rest xs)
    (hscan : s.scan = (none, s')) (herrors : s'.errors = s.errors) :
    ∃ x left, xs = x :: left ∧ x.reading = .comment ∧
      (s.cursor.eatWhile isBlank).place = x.place ∧ s'.cursor.place = x.stop := by
  cases xs with
  | nil =>
    rw [scan_of_splits_nil h] at hscan
    cases hscan
  | cons x left =>
    obtain ⟨blanks, behind, hcs, hblanks, hplace, hreads, -⟩ := splits_cons_iff.mp h
    obtain ⟨rest, -, -, haccept⟩ := scan_of_splits_cons h
    rw [haccept] at hscan
    have hstart : (s.cursor.eatWhile isBlank).place = x.place := by
      rw [hplace, Cursor.eatWhile, hcs, takeWhile_of_isRun (isRun_blanks hblanks hreads behind)]
    have hstop : s'.cursor.place = x.stop := by rw [cursor_of_accept hscan]
    refine ⟨x, left, rfl, ?_, hstart, hstop⟩
    have hcount := errors_accept { s with cursor := ⟨s.cursor.source, rest, x.stop⟩ } x
    have htoken := fst_accept { s with cursor := ⟨s.cursor.source, rest, x.stop⟩ } x
    rw [hscan] at hcount htoken
    cases hreading : x.reading with
    | comment => rfl
    | malformed e =>
      simp [Piece.report?, hreading] at hcount
      omega
    | token kind payload => simp [Piece.token?, hreading] at htoken

/-- In the course of a run, a comment was skipped that covers the span: a pass went from one end of it
to the other, handed out no token and counted no error. -/
def Skips (s : Scanner) (a : Span) : Prop :=
  ∃ u u', s.Passing u ∧ u.scan = (none, u') ∧ u'.errors = u.errors ∧
    a = .between (u.cursor.eatWhile isBlank).place u'.cursor.place

/-- What a run skips are the comments of its text. -/
theorem skips_iff {a : Span} (hxs : Splits s.cursor.place s.cursor.rest xs) :
    s.Skips a ↔ ∃ x ∈ xs, x.reading = .comment ∧ x.span = a := by
  constructor
  · rintro ⟨u, u', hu, hscan, herrors, rfl⟩
    obtain ⟨passed, left, rfl, hleft⟩ := hu.exists_splits hxs
    obtain ⟨x, more, rfl, hcomment, hstart, hstop⟩ := exists_comment_of_scan hleft hscan herrors
    refine ⟨x, by simp, hcomment, ?_⟩
    rw [hstart, hstop]
    rfl
  · rintro ⟨x, hx, hcomment, rfl⟩
    obtain ⟨passed, left, rfl⟩ := List.append_of_mem hx
    obtain ⟨u, hu, hleft⟩ := exists_passing hxs
    obtain ⟨rest, -, -, hscan⟩ := scan_of_splits_cons hleft
    rw [hcomment] at hscan
    obtain ⟨_, _, ⟨⟩, -, hstart, hstop⟩ := exists_comment_of_scan hleft hscan rfl
    refine ⟨u, _, hu, hscan, rfl, ?_⟩
    rw [hstart]
    rfl

end

/-- A comment that was skipped in a run can be blanked: from one line and column to the next, the
same tokens and errors are there to be seen as before, wherever and in whatever compilation the text
is scanned.  `u` is the scanner in front of the pass that skipped the comment, and `u'` behind it. -/
theorem run_blanked (c c' : Compilation) (front comment back : String) {u u' : Scanner}
    (hu : (ofText c (front ++ comment ++ back)).Passing u)
    (hstart : (u.cursor.eatWhile isBlank).place.offset = front.utf8ByteSize)
    (hscan : u.scan = (none, u')) (herrors : u'.errors = u.errors)
    (hstop : u'.cursor.place.offset = (front ++ comment).utf8ByteSize) :
    let s := ofText c (front ++ comment ++ back)
    let v := ofText c' (front ++ .ofList (blanked comment.toList) ++ back)
    v.tokenSightings = s.tokenSightings ∧ v.reportSightings = s.reportSightings := by
  intro s v
  obtain ⟨xs, hxs⟩ := exists_splits .origin (front ++ comment ++ back).toList
  obtain ⟨passed, left, rfl, hleft⟩ := hu.exists_splits hxs
  obtain ⟨x, ys, rfl, hcomment, hplace, hbehind⟩ := exists_comment_of_scan hleft hscan herrors
  obtain ⟨before, behind, zs, hsource, hbefore, hzs, hsights⟩ := hxs.blank_comment hcomment
  -- The piece is the comment of the statement, because it stands at the same offsets.
  have hfront : Utf8.size before = Utf8.size front.toList := by
    rw [Utf8.size_toList, ← hstart, hplace, hbefore, Place.offset_after_origin]
  have hboth : Utf8.size (before ++ x.text) = Utf8.size (front.toList ++ comment.toList) := by
    rw [← String.toList_append, Utf8.size_toList, ← hstop, hbehind, Piece.stop, hbefore,
      ← Place.after_append, Place.offset_after_origin]
  rw [String.toList_append, String.toList_append, ← List.append_assoc] at hsource
  obtain ⟨hcut, rfl⟩ := Utf8.append_inj hsource hboth.symm
  obtain ⟨rfl, htext⟩ := Utf8.append_inj hcut hfront.symm
  rw [← htext] at hzs
  have hv : Splits .origin v.cursor.rest zs := by
    show Splits _ (front ++ String.ofList (blanked comment.toList) ++ back).toList _
    simpa using hzs
  refine sightings_eq (s := s) (u := v) hxs hv hsights ?_
  show (Place.origin.after (front ++ String.ofList (blanked comment.toList) ++ back).toList).Aligned
    (Place.origin.after (front ++ comment ++ back).toList)
  simp only [String.toList_append, String.toList_ofList, Place.after_append]
  exact ((Place.Aligned.refl _).after_blanked _).after _

/-- The comment stands right behind a word, goes over two lines, and holds a quote, stars and a
character of two bytes; behind it there is a stray character. -/
theorem run_blanked_two_lines :
    let c : Compilation := .withoutLog .standard (.ofDisk .fresh fun _ => 0)
    let s := ofText c ("a" ++ "/*é*\n\" /**/" ++ "b @")
    let u := s.next.2
    let v := ofText c ("a" ++ "    \n      " ++ "b @")
    s.Passing u ∧ (u.cursor.eatWhile isBlank).place.offset = 1 ∧ u.scan = (none, u.scan.2) ∧
      u.scan.2.errors = u.errors ∧ u.scan.2.cursor.place.offset = 13 ∧
      v.tokenSightings = s.tokenSightings ∧ v.reportSightings = s.reportSightings ∧
      v.tokenSightings =
        [⟨.identifier, "a", 0, 0⟩, ⟨.identifier, "b", 1, 6⟩, ⟨.endOfText, "", 1, 9⟩] := by
  intro c s u v
  have hu : s.Passing u := Passing.start.next
  have hscan : u.scan = (none, u.scan.2) := by
    have hnone : u.scan.1 = none := by decide +kernel
    exact Prod.ext hnone rfl
  have hstart : (u.cursor.eatWhile isBlank).place.offset = 1 := by decide +kernel
  have herrors : u.scan.2.errors = u.errors := by decide +kernel
  have hstop : u.scan.2.cursor.place.offset = 13 := by decide +kernel
  have hsame := run_blanked c c "a" "/*é*\n\" /**/" "b @" hu hstart hscan herrors hstop
  exact ⟨hu, hstart, hscan, herrors, hstop, hsame.1, hsame.2, by decide +kernel⟩

end Scanner

end FrontEnd
