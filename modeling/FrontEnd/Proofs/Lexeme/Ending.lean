/-
# FrontEnd.Proofs.Lexeme.Ending — what brings a piece of text to its end.

A piece ends in one of three ways (`Reads.ending`).  Most pieces are compact: they lie within one
line, and any blank behind them will do to end them.  Line comments and unterminated string literals
go on to the end of their line, whatever stands there.  Block comments end with their closing mark,
or with the text when there is none, and take no notice of lines or blanks.

Every token is compact (`Reads.compact_of_token`).
-/
import FrontEnd.Proofs.Lexeme.Printed

namespace FrontEnd.Lexeme

open CharClass

/-- The piece lies within one line, does not end with a blank, and reads the same in front of any
blank, or of nothing. -/
structure Compact (x : Lexeme) : Prop where
  newline_not_mem : '\n' ∉ x.text
  isBlank_getLast : ∀ c ∈ x.text.getLast?, isBlank c = false
  reads : ∀ next, (∀ c ∈ next, isBlank c = true) → Reads x.text next x.reading

/-- The piece lies within one line and would take in a carriage return at the end of it. -/
structure FillsLine (x : Lexeme) : Prop where
  newline_not_mem : '\n' ∉ x.text
  reads_return : ∀ next, EndsLine next → Reads (x.text ++ ['\r']) next x.reading

/-- The piece is a block comment, with what follows its opening mark. -/
inductive IsBlock : Lexeme → Option Char → Prop
  | closed {body : List Char} {next : Option Char} :
      Comment.IsClosed body → IsBlock ⟨'/' :: '*' :: body, .comment⟩ next
  | unclosed {body : List Char} :
      Comment.IsOpen body → IsBlock ⟨'/' :: '*' :: body, .malformed .unterminatedComment⟩ none

/-! ## Compact pieces -/

/-- A piece without any blank in it is compact if it reads the same in front of any. -/
theorem compact_of_no_blank {x : Lexeme} (htext : ∀ c ∈ x.text, isBlank c = false)
    (hreads : ∀ next, (∀ c ∈ next, isBlank c = true) → Reads x.text next x.reading) :
    x.Compact := by
  constructor
  case newline_not_mem =>
    intro hmem
    exact absurd (htext '\n' hmem) (by decide)
  case isBlank_getLast =>
    intro c hc
    exact htext c (List.mem_of_getLast? hc)
  case reads => exact hreads

/-- A class that holds no blank leaves none in a text of its characters. -/
theorem isBlank_of_mem {p : Char → Bool} {text : List Char}
    (hp : ∀ c, isBlank c = true → p c = false) (htext : ∀ c ∈ text, p c = true) :
    ∀ c ∈ text, isBlank c = false := by
  intro c hc
  by_contra hblank
  have hnot := hp c (by simpa using hblank)
  rw [htext c hc] at hnot
  cases hnot

theorem newline_not_mem_written {parts : List Quoted.Part} (h : ∀ p ∈ parts, p.InLine) :
    '\n' ∉ Quoted.written parts := by
  intro hmem
  obtain ⟨p, hp, hnewline⟩ := List.mem_flatMap.mp hmem
  have hline := h p hp
  cases p with
  | plain c =>
    obtain ⟨-, -, hc⟩ := hline
    apply hc
    simpa [Quoted.Part.text, eq_comm] using hnewline
  | pair c =>
    apply hline
    simpa [Quoted.Part.text, eq_comm] using hnewline

theorem newline_not_mem_open {parts : List Quoted.Part} {loose : List Char}
    (h : ∀ p ∈ parts, p.InLine) (hloose : Quoted.IsLoose loose) :
    '\n' ∉ Quoted.written parts ++ loose := by
  have hwritten := newline_not_mem_written h
  rcases hloose with rfl | rfl
  · simpa using hwritten
  · simpa using hwritten

/-- A string literal ends with its closing quote, whatever comes then. -/
theorem compact_quoted {parts : List Quoted.Part} {reading : Reading}
    (hparts : ∀ p ∈ parts, p.InLine)
    (hreads : ∀ next, Reads ('"' :: (Quoted.written parts ++ ['"'])) next reading) :
    Compact ⟨'"' :: (Quoted.written parts ++ ['"']), reading⟩ := by
  constructor
  case newline_not_mem => simpa using newline_not_mem_written hparts
  case isBlank_getLast =>
    intro c hc
    have hquote : c = '"' := by
      rw [← List.cons_append, List.getLast?_concat] at hc
      exact (Option.some.inj hc).symm
    rw [hquote]
    rfl
  case reads =>
    intro next _
    exact hreads next

/-- What reads as a token is compact. -/
theorem Reads.compact_of_token {text : List Char} {next : Option Char} {kind : Kind}
    {payload : Option (List Char)} (h : Reads text next (.token kind payload)) :
    Compact ⟨text, .token kind payload⟩ := by
  have hreads : ∀ next', (∀ c ∈ next', isBlank c = true) →
      Reads text next' (.token kind payload) := by
    intro next' hnext
    exact h.before_blank hnext
  cases h with
  | string hparts hknown =>
    apply compact_quoted hparts
    intro next'
    exact .string hparts hknown
  | @keyword word =>
    have hword := (Kind.isWord_glyphs word).isWordPart
    exact compact_of_no_blank (isBlank_of_mem @isWordPart_of_isBlank hword) hreads
  | identifier hword =>
    exact compact_of_no_blank (isBlank_of_mem @isWordPart_of_isBlank hword.isWordPart) hreads
  | numeral _ hrun =>
    exact compact_of_no_blank (isBlank_of_mem @isNumeralPart_of_isBlank hrun.inside) hreads
  | symbol hmem =>
    exact compact_of_no_blank (Kind.isBlank_of_mem_glyphs hmem) hreads

/-! ## The three ways to end -/

/-- Every piece is compact, fills its line, or is a block comment. -/
theorem Reads.ending {text : List Char} {next : Option Char} {reading : Reading}
    (h : Reads text next reading) :
    Compact ⟨text, reading⟩ ∨ (EndsLine next ∧ FillsLine ⟨text, reading⟩) ∨
      IsBlock ⟨text, reading⟩ next := by
  cases reading with
  | token kind payload => exact Or.inl h.compact_of_token
  | comment =>
    cases h with
    | lineComment hbody hnext =>
      refine Or.inr (Or.inl ⟨hnext, ?_, ?_⟩)
      · simpa using hbody
      · intro next' hline
        exact .lineComment (by simpa using hbody) hline
    | blockComment hclosed => exact Or.inr (Or.inr (.closed hclosed))
  | malformed e =>
    cases h with
    | openComment hopen => exact Or.inr (Or.inr (.unclosed hopen))
    | badEscape hparts hunknown =>
      left
      apply compact_quoted hparts
      intro next'
      exact .badEscape hparts hunknown
    | @openString parts loose _ hparts hloose hnext =>
      refine Or.inr (Or.inl ⟨hnext, ?_, ?_⟩)
      · simpa using newline_not_mem_open hparts hloose
      · intro next' hline
        -- The carriage return is one more plain character, or makes a pair of a lone backslash.
        obtain ⟨p, hp, hwritten⟩ : ∃ p : Quoted.Part, p.InLine ∧ p.text = loose ++ ['\r'] := by
          rcases hloose with rfl | rfl
          · exact ⟨.plain '\r', ⟨by decide, by decide, by decide⟩, rfl⟩
          · exact ⟨.pair '\r', (by decide : '\r' ≠ '\n'), rfl⟩
        have hmore : ∀ q ∈ parts ++ [p], q.InLine :=
          List.forall_mem_append.mpr ⟨hparts, List.forall_mem_singleton.mpr hp⟩
        have hreads := Reads.openString hmore (Or.inl rfl) hline
        simpa [Quoted.written, hwritten] using hreads
    | badNumeral hstart hrun hclassify =>
      left
      refine compact_of_no_blank (isBlank_of_mem @isNumeralPart_of_isBlank hrun.inside) ?_
      intro next' hnext
      refine .badNumeral hstart ⟨hrun.inside, ?_⟩ hclassify
      intro c hc
      exact isNumeralPart_of_isBlank (hnext c hc)
    | stray hblank hword hdigit hquote hnone =>
      left
      apply compact_of_no_blank
      · exact List.forall_mem_singleton.mpr hblank
      · intro next' _
        exact .stray hblank hword hdigit hquote hnone

end FrontEnd.Lexeme
