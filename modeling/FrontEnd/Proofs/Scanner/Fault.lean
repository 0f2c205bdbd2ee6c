/-
# FrontEnd.Proofs.Scanner.Fault — no report without a cause, and no stray character without a report.

Every report of a run covers a text that bears out what it says (`LexicalError.HoldsOf`).  The other
way round, look at a character outside ASCII.  It is no blank, so it belongs to a piece; and if that
is no comment, no string literal and nothing that is reported as a whole, then the piece is the
character itself (`Splits.exists_piece_of_not_ascii`) and is reported as such, once
(`errors_justified`).

That nothing is reported twice follows from the order of the pieces: each starts behind the start of
the one in front of it (`Splits.pairwise`).
-/
import FrontEnd.Proofs.Lexeme.Fault
import FrontEnd.Proofs.Scanner.Comment
import FrontEnd.Proofs.Scanner.Line

namespace FrontEnd

open CharClass

namespace Span

/-- The stretch takes in all of the other. -/
def Covers (a b : Span) : Prop := a.start ≤ b.start ∧ b.stop ≤ a.stop

instance (a b : Span) : Decidable (a.Covers b) := inferInstanceAs (Decidable (_ ∧ _))

/-- The span of the character `c` with `before` in front of it. -/
def ofChar (before : List Char) (c : Char) : Span :=
  .between (Place.origin.after before) (Place.origin.after (before ++ [c]))

end Span

/-! ## The order of the pieces -/

theorem Piece.start_lt_stop {x : Piece} {next : Option Char}
    (h : Lexeme.Reads x.text next x.reading) : x.span.start < x.span.stop := by
  obtain ⟨c, cs, htext, -⟩ := h.exists_cons
  have hstop : x.span.stop = x.place.offset + Utf8.size x.text := Place.offset_after _ _
  have hpos := c.utf8Size_pos
  rw [hstop, htext, Utf8.size_cons]
  show x.place.offset < _
  omega

/-- A cut through a text falls behind a character of it or not. -/
theorem exists_of_append_eq_append_cons {a b l r : List Char} {c : Char}
    (h : a ++ b = l ++ c :: r) :
    (∃ back, a = l ++ c :: back) ∨ ∃ mid, l = a ++ mid ∧ b = mid ++ c :: r := by
  rcases List.append_eq_append_iff.mp h with ⟨mid, rfl, hb⟩ | ⟨mid, rfl, hcut⟩
  · exact Or.inr ⟨mid, rfl, hb⟩
  · cases mid with
    | nil => exact Or.inr ⟨[], by simp, hcut.symm⟩
    | cons d ds =>
      obtain ⟨rfl, -⟩ := List.cons.inj hcut
      exact Or.inl ⟨ds, rfl⟩

namespace Splits

variable {p : Place} {cs : List Char} {xs : List Piece} {x : Piece}

/-- Each piece starts behind the start of the one in front of it. -/
theorem pairwise (h : Splits p cs xs) :
    (∀ x ∈ xs, p.offset ≤ x.span.start) ∧
      xs.Pairwise fun x y => x.span.start < y.span.start := by
  -- the lower bound is what orders a piece and all that stand behind it
  induction h with
  | blank => exact ⟨List.forall_mem_nil _, .nil⟩
  | @piece blanks rest x xs p _ hplace hreads _ ih =>
    obtain ⟨hle, hpairwise⟩ := ih
    have hlt := Piece.start_lt_stop hreads
    have hstart : p.offset ≤ x.span.start := by
      show p.offset ≤ x.place.offset
      rw [hplace, Place.offset_after]
      omega
    refine ⟨List.forall_mem_cons.mpr ⟨hstart, ?_⟩, .cons ?_ hpairwise⟩
    · intro y hy
      have hbehind : x.span.stop ≤ y.span.start := hle y hy
      omega
    · intro y hy
      exact Nat.lt_of_lt_of_le hlt (hle y hy)

/-- A malformed piece is reported once. -/
theorem filter_reports (h : Splits p cs xs) (hx : x ∈ xs) {e : LexicalError}
    (hreading : x.reading = .malformed e) :
    (xs.filterMap Piece.report?).filter (·.span = some x.span) = [e.content x.span] := by
  have helsewhere {ys : List Piece} (hys : ∀ y ∈ ys, y.span ≠ x.span) :
      (ys.filterMap Piece.report?).filter (·.span = some x.span) = [] := by
    rw [List.filter_eq_nil_iff]
    intro r hr
    obtain ⟨y, hy, hyr⟩ := List.mem_filterMap.mp hr
    rw [Piece.span_of_report? hyr]
    simpa using hys y hy
  have hreport : x.report? = some (e.content x.span) := by rw [Piece.report?, hreading]
  obtain ⟨front, back, rfl⟩ := List.append_of_mem hx
  obtain ⟨-, hback, hfront⟩ := List.pairwise_append.mp h.pairwise.2
  rw [List.filterMap_append, List.filterMap_cons_some hreport, List.filter_append,
    List.filter_cons_of_pos (by simp [LexicalError.content]), helsewhere, helsewhere,
    List.nil_append]
  · intro y hy heq
    have hlt := (List.pairwise_cons.mp hback).1 y hy
    rw [heq] at hlt
    exact Nat.lt_irrefl _ hlt
  · intro y hy heq
    have hlt := hfront y hy x List.mem_cons_self
    rw [heq] at hlt
    exact Nat.lt_irrefl _ hlt

/-- A character that is no blank belongs to a piece. -/
theorem exists_piece_at (h : Splits p cs xs) {before behind : List Char} {c : Char}
    (hcs : cs = before ++ c :: behind) (hc : isBlank c = false) :
    ∃ x ∈ xs, ∃ front back, x.text = front ++ c :: back ∧
      x.place.after front = p.after before := by
  induction h generalizing before with
  | blank hblanks =>
    have hblank := hblanks c (by rw [hcs]; simp)
    rw [hc] at hblank
    cases hblank
  | @piece blanks rest x xs p hblanks hplace _ _ ih =>
    rcases exists_of_append_eq_append_cons hcs with ⟨back, rfl⟩ | ⟨mid, rfl, hmid⟩
    · have hblank := hblanks c (by simp)
      rw [hc] at hblank
      cases hblank
    · rw [Place.after_append, ← hplace]
      rcases exists_of_append_eq_append_cons hmid with ⟨back, htext⟩ | ⟨mid, rfl, hrest⟩
      · exact ⟨x, List.mem_cons_self, mid, back, htext, rfl⟩
      · obtain ⟨y, hy, front, back, htext, hfront⟩ := ih hrest
        refine ⟨y, List.mem_cons_of_mem _ hy, front, back, htext, ?_⟩
        rw [hfront, Place.after_append]
        rfl

end Splits

/-- A piece covers each character of its text. -/
theorem Piece.covers_ofChar {x : Piece} {before front back : List Char} {c : Char}
    (htext : x.text = front ++ c :: back)
    (hfront : x.place.after front = Place.origin.after before) :
    x.span.Covers (.ofChar before c) := by
  have hstart : (x.place.after front).offset = x.place.offset + Utf8.size front :=
    Place.offset_after _ _
  have hstop : x.stop.offset =
      (Place.origin.after (before ++ [c])).offset + Utf8.size back := by
    rw [Piece.stop, htext, ← List.singleton_append, Place.after_append, hfront,
      Place.after_append, Place.offset_after, ← Place.after_append]
  constructor
  · show x.place.offset ≤ (Place.origin.after before).offset
    rw [← hfront]
    omega
  · show (Place.origin.after (before ++ [c])).offset ≤ x.stop.offset
    omega

/-- A piece of one character has the span of that character. -/
theorem Piece.span_of_singleton {x : Piece} {before front back : List Char} {c d : Char}
    (hsingle : x.text = [d]) (htext : x.text = front ++ c :: back)
    (hfront : x.place.after front = Place.origin.after before) :
    d = c ∧ x.span = .ofChar before c := by
  rw [hsingle] at htext
  cases front with
  | nil =>
    obtain ⟨rfl, -⟩ := List.cons.inj htext
    refine ⟨rfl, ?_⟩
    rw [Place.after_nil] at hfront
    rw [Piece.span, Piece.stop, hsingle, hfront, ← Place.after_append]
    rfl
  | cons e front => simp at htext

theorem LexicalError.exists_of_code {e : LexicalError} (h : e.code = .unexpectedChar) :
    ∃ c, e = .unexpectedChar c := by
  cases e with
  | unexpectedChar c => exact ⟨c, rfl⟩
  | _ => cases h

/-- A character outside ASCII belongs to a comment, to a string literal or to a malformed piece; and
as a stray character, it is all there is of the piece. -/
theorem Splits.exists_piece_of_not_ascii {cs before behind : List Char} {xs : List Piece} {c : Char}
    (h : Splits .origin cs xs) (hcs : cs = before ++ c :: behind) (hascii : 128 ≤ c.toNat) :
    ∃ x ∈ xs, x.span.Covers (.ofChar before c) ∧
      (x.reading = .comment ∨ (∃ payload, x.reading = .token (.literal .string) payload) ∨
        ∃ e, x.reading = .malformed e ∧
          (e.code = .unexpectedChar → e = .unexpectedChar c ∧ x.span = .ofChar before c)) := by
  have hblank : isBlank c = false := by
    rw [Bool.eq_false_iff]
    intro hc
    rcases isBlank_iff.mp hc with rfl | rfl | rfl | rfl | rfl <;> exact absurd hascii (by decide)
  obtain ⟨x, hx, front, back, htext, hfront⟩ := h.exists_piece_at hcs hblank
  refine ⟨x, hx, Piece.covers_ofChar htext hfront, ?_⟩
  obtain ⟨-, behind', -, -, hreads⟩ := h.exists_reads x hx
  cases hreading : x.reading with
  | comment => exact Or.inl rfl
  | token kind payload =>
    rw [hreading] at hreads
    obtain rfl : kind = .literal .string := hreads.kind_of_not_ascii (by rw [htext]; simp) hascii
    exact Or.inr (Or.inl ⟨payload, rfl⟩)
  | malformed e =>
    rw [hreading] at hreads
    refine Or.inr (Or.inr ⟨e, rfl, ?_⟩)
    intro hcode
    obtain ⟨d, rfl⟩ := LexicalError.exists_of_code hcode
    obtain ⟨hsingle, -⟩ := hreads.holdsOf
    obtain ⟨rfl, hspan⟩ := Piece.span_of_singleton hsingle htext hfront
    exact ⟨rfl, hspan⟩

namespace Scanner

/-- A piece that reads as a token is handed out. -/
theorem exists_token_of_mem {s : Scanner} {xs : List Piece} {x : Piece} {kind : Kind}
    {payload : Option (List Char)} (h : Splits s.cursor.place s.cursor.rest xs) (hx : x ∈ xs)
    (hreading : x.reading = .token kind payload) :
    ∃ t ∈ s.run.1, t.kind = kind ∧ t.span = x.span := by
  obtain ⟨t, htoken, hkind, hspan⟩ :
      ∃ t, x.token? s.run.2.strings = some t ∧ t.kind = kind ∧ t.span = x.span := by
    rw [Piece.token?, hreading]
    exact ⟨_, rfl, rfl, rfl⟩
  rw [tokens_run h]
  exact ⟨t, List.mem_append_left _ (List.mem_filterMap.mpr ⟨x, hx, htoken⟩), hkind, hspan⟩

/-- What is reported of a text is true of the stretch that the report covers.  The other way round,
take a character outside ASCII that no comment covers that was skipped, no string literal that was
handed out and no error other than a stray character: then there is just one report with the span of
that character, and it calls the character a stray one. -/
theorem errors_justified (compilation : Compilation) (source : String) :
    let s := ofText compilation source
    (∀ r ∈ s.reports, ∃ (e : LexicalError) (a : Span) (text behind : List Char), r = e.content a ∧
      Stands source.toList a.start a.stop text behind ∧ e.HoldsOf text behind) ∧
    ∀ before c behind, source.toList = before ++ c :: behind → 128 ≤ c.toNat →
      (∀ a, s.Skips a → ¬ a.Covers (.ofChar before c)) →
      (∀ t ∈ s.run.1, t.kind = .literal .string → ¬ t.span.Covers (.ofChar before c)) →
      (∀ r ∈ s.reports, r.code ≠ some .unexpectedChar →
        ∀ a ∈ r.span, ¬ a.Covers (.ofChar before c)) →
      s.reports.filter (·.span = some (.ofChar before c)) =
        [(LexicalError.unexpectedChar c).content (.ofChar before c)] := by
  intro s
  obtain ⟨xs, hsplits⟩ := exists_splits .origin source.toList
  have hreports : s.reports = xs.filterMap Piece.report? := reports_eq hsplits
  rw [hreports]
  constructor
  · intro r hr
    obtain ⟨x, hx, hxr⟩ := List.mem_filterMap.mp hr
    obtain ⟨e, hreading, rfl⟩ := Piece.exists_error_of_report? hxr
    obtain ⟨before, behind, hsource, hplace, hreads⟩ := hsplits.exists_reads x hx
    rw [hreading] at hreads
    exact ⟨e, x.span, x.text, behind, rfl, Piece.stands hsource hplace, hreads.holdsOf⟩
  · intro before c behind hsource hascii hcomments hstrings herrors
    obtain ⟨x, hx, hcovers, hreading | ⟨payload, hreading⟩ | ⟨e, hreading, hstray⟩⟩ :=
      hsplits.exists_piece_of_not_ascii hsource hascii
    · have hskips : s.Skips x.span := (skips_iff hsplits).mpr ⟨x, hx, hreading, rfl⟩
      exact absurd hcovers (hcomments x.span hskips)
    · obtain ⟨t, ht, hkind, hspan⟩ := exists_token_of_mem (s := s) hsplits hx hreading
      have hnot := hstrings t ht hkind
      rw [hspan] at hnot
      exact absurd hcovers hnot
    · have hreport : e.content x.span ∈ xs.filterMap Piece.report? :=
        List.mem_filterMap.mpr ⟨x, hx, by rw [Piece.report?, hreading]⟩
      have hcode : e.code = .unexpectedChar := by
        apply Decidable.byContradiction
        intro hother
        have hnot : (e.content x.span).code ≠ some .unexpectedChar := by
          simpa [LexicalError.content] using hother
        exact herrors _ hreport hnot x.span rfl hcovers
      obtain ⟨rfl, hspan⟩ := hstray hcode
      rw [← hspan]
      exact hsplits.filter_reports hx hreading

/-- A bad numeral ends in front of a character outside ASCII, which is reported by itself; the one
behind it stands in a string. -/
theorem errors_justified_behind_numeral :
    let s := ofText (.withoutLog .standard (.ofDisk .fresh fun _ => 0)) "08€\"é\""
    s.reports.length = 2 ∧ Span.ofChar ['0', '8'] '€' = ⟨2, 5, 0, 2⟩ ∧
      s.reports.filter (·.span = some ⟨2, 5, 0, 2⟩) =
        [(LexicalError.unexpectedChar '€').content ⟨2, 5, 0, 2⟩] := by
  intro s
  have hsource : "08€\"é\"".toList = ['0', '8'] ++ '€' :: ['"', 'é', '"'] := by decide +kernel
  have hcomments : ∀ a, s.Skips a → ¬ a.Covers (.ofChar ['0', '8'] '€') := by
    intro a ha
    -- a comment would start with a slash
    obtain ⟨xs, hsplits⟩ := exists_splits s.cursor.place s.cursor.rest
    obtain ⟨x, hx, hcomment, -⟩ := (skips_iff hsplits).mp ha
    obtain ⟨before, behind, hrest, -, hreads⟩ := hsplits.exists_reads x hx
    have hslash : '/' ∈ s.cursor.rest := by
      rw [hcomment] at hreads
      rw [hrest]
      generalize x.text = text, behind.head? = next at hreads
      cases hreads with
      | lineComment | blockComment => simp
    exact absurd hslash (by decide +kernel)
  have hstrings : ∀ t ∈ s.run.1, t.kind = .literal .string →
      ¬ t.span.Covers (.ofChar ['0', '8'] '€') := by decide +kernel
  have herrors : ∀ r ∈ s.reports, r.code ≠ some .unexpectedChar →
      ∀ a ∈ r.span, ¬ a.Covers (.ofChar ['0', '8'] '€') := by decide +kernel
  have hlength : s.reports.length = 2 := by decide +kernel
  obtain ⟨-, hstray⟩ := errors_justified (.withoutLog .standard (.ofDisk .fresh fun _ => 0))
    "08€\"é\""
  exact ⟨hlength, by decide, hstray _ _ _ hsource (by decide) hcomments hstrings herrors⟩

end Scanner

end FrontEnd
