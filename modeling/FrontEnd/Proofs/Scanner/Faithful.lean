/-
# FrontEnd.Proofs.Scanner.Faithful — every token is what its stretch of the source says.

A token names a kind, a stretch of the source and a text.  The stretch is a way of writing just
that kind with just that text (`Printed`), and in view of what stands behind it the token could not
have gone on (`Kind.Maximal`).  Both hold wherever the token stands, behind comments and behind
malformed pieces too, because a piece is read from the text alone.
-/
import FrontEnd.Proofs.Lexeme.Printed
import FrontEnd.Proofs.Scanner.History
import FrontEnd.Proofs.Text.Slice

namespace FrontEnd

open CharClass

/-- In front of `behind`, a token written as `text` goes as far as its kind lets it.  A string
literal has its end in itself. -/
def Kind.Maximal (kind : Kind) (text behind : List Char) : Prop :=
  match kind with
  | .keyword _ | .identifier => ∀ c ∈ behind.head?, isWordPart c = false
  | .literal .string => True
  | .literal _ => IsRun isNumeralPart text behind.head?
  | .operator _ | .punctuation _ =>
    (∀ other ∈ Kind.symbols, other.glyphs <+: text ++ behind →
      other.glyphs.length ≤ text.length) ∧
      ¬ ['/', '/'] <+: text ++ behind ∧ ¬ ['/', '*'] <+: text ++ behind ∧
      (text = ['.'] → ∀ c ∈ behind.head?, c.isDigit = false)
  | .absent | .endOfText => False

namespace Lexeme

/-- A symbol stands in front of no comment. -/
theorem not_comment_prefix {kind : Kind} {d : Char} {behind : List Char}
    (hkind : kind ∈ Kind.symbols) (hd : d = '/' ∨ d = '*')
    (hslash : kind = .operator .slash → ∀ c ∈ behind.head?, c ≠ '/' ∧ c ≠ '*') :
    ¬ ['/', d] <+: kind.glyphs ++ behind := by
  rintro ⟨rest, hrest⟩
  have hhead : kind.glyphs.head? = some '/' := by
    obtain ⟨c, cs, hcs⟩ := List.exists_cons_of_ne_nil (Kind.glyphs_ne_nil_of_mem_symbols kind hkind)
    rw [hcs] at hrest ⊢
    obtain ⟨rfl, -⟩ := List.cons.inj hrest
    rfl
  -- only the slash itself could be the first half of a comment mark
  rcases Kind.slash_of_mem_symbols kind hkind hhead with rfl | hassign
  · obtain ⟨-, htail⟩ := List.cons.inj hrest
    obtain rfl : d :: rest = behind := htail
    have hnext := hslash rfl d rfl
    rcases hd with rfl | rfl
    · exact hnext.1 rfl
    · exact hnext.2 rfl
  · rw [hassign] at hrest
    obtain ⟨-, htail⟩ := List.cons.inj hrest
    obtain ⟨heq, -⟩ := List.cons.inj htail
    rcases hd with rfl | rfl
    · exact absurd heq (by decide)
    · exact absurd heq (by decide)

/-- What reads as a token goes as far as the kind of the token lets it. -/
theorem Reads.maximal {text behind : List Char} {kind : Kind} {payload : Option (List Char)}
    (h : Reads text behind.head? (.token kind payload)) : kind.Maximal text behind := by
  generalize hnext : behind.head? = next at h
  cases h with
  | string => exact trivial
  | keyword hstop =>
    rw [← hnext] at hstop
    exact hstop
  | identifier _ _ hstop =>
    rw [← hnext] at hstop
    exact hstop
  | @numeral _ _ family hstart hrun hclassify =>
    rw [← hnext] at hrun
    cases family with
    | string => exact trivial
    | int => exact hrun
    | float => exact hrun
  | symbol hmem hlonger hslash hpoint =>
    rw [← hnext] at hlonger hslash hpoint
    -- the grammar looks one character ahead, which is enough to rule out all longer spellings
    have hlongest := Kind.isLongest_append_iff.mpr ⟨hmem, hlonger⟩
    have hmaximal : (∀ other ∈ Kind.symbols, other.glyphs <+: kind.glyphs ++ behind →
        other.glyphs.length ≤ kind.glyphs.length) ∧
        ¬ ['/', '/'] <+: kind.glyphs ++ behind ∧ ¬ ['/', '*'] <+: kind.glyphs ++ behind ∧
        (kind.glyphs = ['.'] → ∀ c ∈ behind.head?, c.isDigit = false) := by
      refine ⟨hlongest.longest, not_comment_prefix hmem (Or.inl rfl) hslash,
        not_comment_prefix hmem (Or.inr rfl) hslash, ?_⟩
      intro hglyphs
      exact hpoint (Kind.period_of_mem_symbols kind hmem (by rw [hglyphs]; rfl))
    rcases Kind.exists_of_mem_symbols hmem with ⟨sign, rfl⟩ | ⟨mark, rfl⟩
    · exact hmaximal
    · exact hmaximal

end Lexeme

namespace Scanner

/-- Each token of a run, the end token apart, carries a symbol just when its kind says so, covers a
stretch of the source that is a way of writing its kind and text, and goes as far as it can. -/
theorem tokens_faithful (compilation : Compilation) (source : String) :
    let s := ofText compilation source
    ∃ tokens, s.run.1 = tokens ++ [s.endToken] ∧ ∀ t ∈ tokens, ∃ text behind,
      Stands source.toList t.span.start t.span.stop text behind ∧
      t.symbol.isSome = t.kind.hasPayload ∧
      Printed t.kind (t.text s.run.2.strings).toList text ∧ t.kind.Maximal text behind := by
  intro s
  obtain ⟨xs, hsplits⟩ := exists_splits .origin source.toList
  refine ⟨_, tokens_run (s := s) hsplits, ?_⟩
  intro t ht
  obtain ⟨x, hx, hxt⟩ := List.mem_filterMap.mp ht
  obtain ⟨payload, hreading, hspan, hsymbol, htext⟩ :=
    Piece.exists_reading_of_token? (knownIn_run (s := s) hsplits x hx) hxt
  obtain ⟨before, behind, hsource, hplace, hreads⟩ := hsplits.exists_reads x hx
  rw [hreading] at hreads
  have hstart : Utf8.size before = x.span.start := by
    show _ = x.place.offset
    rw [hplace, Place.offset_after]
    exact (Nat.zero_add _).symm
  have hstop : Utf8.size (before ++ x.text) = x.span.stop := by
    show _ = x.stop.offset
    rw [Piece.stop, Place.offset_after, Utf8.size_append, hstart]
    rfl
  refine ⟨x.text, behind, ⟨before, hsource, ?_, ?_⟩, ?_, ?_, hreads.maximal⟩
  · rw [hspan, hstart]
  · rw [hspan, hstop]
  · rw [hsymbol, hreads.isSome_payload]
  · rw [htext]
    exact hreads.printed

end Scanner

end FrontEnd
