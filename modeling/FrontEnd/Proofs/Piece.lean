/-
# FrontEnd.Proofs.Piece — a text as a sequence of pieces.

A text falls apart into pieces with blanks between them.  `Splits` says so by itself: each piece
reads as the grammar of `Lexeme.Reads` has it, in view of the character behind it, and stands at
the place that the text in front of it leads to.  Every text splits (`exists_splits`); no
compilation, table or journal takes part in it.

What holds of every piece of a text is proved by induction on its splitting.  What a scanner makes
of the pieces is the matter of `FrontEnd.Proofs.Scanner.History`.
-/
import FrontEnd.Proofs.Lexeme.Grammar
import FrontEnd.Span

namespace FrontEnd

open CharClass

/-- A piece of a text, with the place of its first character. -/
structure Piece where
  place : Place
  text : List Char
  reading : Reading
  deriving DecidableEq, Repr

namespace Piece

/-- The place behind a piece. -/
def stop (x : Piece) : Place := x.place.after x.text

/-- The stretch of text a piece covers. -/
def span (x : Piece) : Span := .between x.place x.stop

end Piece

/-- The text from a place on falls apart into pieces, blanks apart. -/
inductive Splits : Place → List Char → List Piece → Prop
  | blank {p : Place} {blanks : List Char} :
      (∀ c ∈ blanks, isBlank c = true) → Splits p blanks []
  | piece {blanks rest : List Char} {x : Piece} {xs : List Piece} {p : Place} :
      (∀ c ∈ blanks, isBlank c = true) → x.place = p.after blanks →
      Lexeme.Reads x.text rest.head? x.reading → Splits x.stop rest xs →
      Splits p (blanks ++ (x.text ++ rest)) (x :: xs)

theorem splits_nil_iff {p : Place} {cs : List Char} :
    Splits p cs [] ↔ ∀ c ∈ cs, isBlank c = true := by
  constructor
  · intro h
    cases h with
    | blank hblanks => exact hblanks
  · exact .blank

theorem splits_cons_iff {p : Place} {cs : List Char} {x : Piece} {xs : List Piece} :
    Splits p cs (x :: xs) ↔
      ∃ blanks rest, cs = blanks ++ (x.text ++ rest) ∧ (∀ c ∈ blanks, isBlank c = true) ∧
        x.place = p.after blanks ∧ Lexeme.Reads x.text rest.head? x.reading ∧
        Splits x.stop rest xs := by
  constructor
  · intro h
    cases h with
    | piece hblanks hplace hreads hrest => exact ⟨_, _, rfl, hblanks, hplace, hreads, hrest⟩
  · rintro ⟨blanks, rest, rfl, hblanks, hplace, hreads, hrest⟩
    exact .piece hblanks hplace hreads hrest

/-- Every text splits. -/
theorem exists_splits (p : Place) (cs : List Char) : ∃ xs, Splits p cs xs := by
  -- a piece has a character, so the text behind it is shorter
  induction hn : cs.length using Nat.strong_induction_on generalizing p cs with
  | _ n ih =>
    have hblanks := (isRun_takeWhile isBlank cs).inside
    have hsplit := cs.takeWhile_append_dropWhile (p := isBlank)
    cases hrest : cs.dropWhile isBlank with
    | nil =>
      rw [hrest, List.append_nil] at hsplit
      exact ⟨[], hsplit ▸ .blank hblanks⟩
    | cons c ds =>
      have hc : isBlank c = false := (isRun_takeWhile isBlank cs).stops c (by rw [hrest]; rfl)
      obtain ⟨rest, heq, hreads⟩ := Lexeme.fits_read hc ds
      have hpos := List.length_pos_iff.mpr (Lexeme.text_read_ne_nil c ds)
      have hlen : rest.length < n := by
        have h1 := congrArg List.length heq
        have h2 := congrArg List.length hsplit
        rw [hrest] at h2
        simp only [List.length_append] at h1 h2
        omega
      let x : Piece := ⟨p.after (cs.takeWhile isBlank), (Lexeme.read c ds).text,
        (Lexeme.read c ds).reading⟩
      obtain ⟨xs, hxs⟩ := ih rest.length hlen x.stop rest rfl
      refine ⟨x :: xs, ?_⟩
      rw [← hsplit, hrest, heq]
      exact .piece hblanks rfl hreads hxs

/-- Each piece stands somewhere in the text, and reads there as the grammar has it. -/
theorem Splits.exists_reads {p : Place} {cs : List Char} {xs : List Piece} (h : Splits p cs xs) :
    ∀ x ∈ xs, ∃ before behind, cs = before ++ (x.text ++ behind) ∧ x.place = p.after before ∧
      Lexeme.Reads x.text behind.head? x.reading := by
  induction h with
  | blank => simp
  | @piece blanks rest x xs p _ hplace hreads _ ih =>
    refine List.forall_mem_cons.mpr ⟨⟨blanks, rest, rfl, hplace, hreads⟩, ?_⟩
    intro y hy
    obtain ⟨before, behind, rfl, hyplace, hyreads⟩ := ih y hy
    refine ⟨blanks ++ (x.text ++ before), behind, by simp only [List.append_assoc], ?_, hyreads⟩
    rw [Place.after_append, Place.after_append, ← hplace]
    exact hyplace

/-- Blanks in front of a text change no piece. -/
theorem Splits.prepend_blanks {p : Place} {blanks cs : List Char} {xs : List Piece}
    (hblanks : ∀ c ∈ blanks, isBlank c = true) (h : Splits (p.after blanks) cs xs) :
    Splits p (blanks ++ cs) xs := by
  cases h with
  | blank hcs =>
    apply Splits.blank
    intro c hc
    rcases List.mem_append.mp hc with hmem | hmem
    · exact hblanks c hmem
    · exact hcs c hmem
  | piece hmore hplace hreads hrest =>
    rw [← List.append_assoc]
    refine .piece ?_ (hplace.trans (Place.after_append p _ _).symm) hreads hrest
    intro c hc
    rcases List.mem_append.mp hc with hmem | hmem
    · exact hblanks c hmem
    · exact hmore c hmem

/-- Nor does it change a piece when the blank in front of the text goes. -/
theorem Splits.drop_blank {p : Place} {c : Char} {cs : List Char} {xs : List Piece}
    (h : Splits p (c :: cs) xs) (hc : isBlank c = true) : Splits (p.step c) cs xs := by
  cases xs with
  | nil => exact splits_nil_iff.mpr (List.forall_mem_cons.mp (splits_nil_iff.mp h)).2
  | cons x xs =>
    obtain ⟨blanks, rest, hcs, hblanks, hplace, hreads, hrest⟩ := splits_cons_iff.mp h
    cases blanks with
    | nil =>
      -- a piece does not start with a blank
      obtain ⟨d, ds, htext, hd⟩ := hreads.exists_cons
      rw [htext] at hcs
      obtain ⟨rfl, -⟩ := List.cons.inj hcs
      rw [hc] at hd
      cases hd
    | cons d blanks =>
      obtain ⟨rfl, rfl⟩ := List.cons.inj hcs
      exact .piece (List.forall_mem_cons.mp hblanks).2 hplace hreads hrest

/-- What reads as a piece in front of a text is its first piece. -/
theorem Splits.prepend_piece {x : Piece} {rest : List Char} {xs : List Piece}
    (hreads : Lexeme.Reads x.text rest.head? x.reading) (h : Splits x.stop rest xs) :
    Splits x.place (x.text ++ rest) (x :: xs) :=
  .piece (List.forall_mem_nil _) rfl hreads h

end FrontEnd
