/-
# FrontEnd.Proofs.Lexeme.Fault — what an error says of the text it is reported of.

Each error names a cause, and a reader of the report can look at the text it covers and see it:
`LexicalError.HoldsOf` says what there is to see.  The grammar reports nothing else
(`Lexeme.Reads.holdsOf`).

Outside ASCII only comments, string literals and malformed pieces have characters
(`Lexeme.Reads.kind_of_not_ascii`): such a character belongs to no word, no numeral and no symbol.
-/
import FrontEnd.Proofs.Lexeme.Ending
import FrontEnd.Proofs.Lexeme.Numeral.Viable

namespace FrontEnd

open CharClass

/-! ## What there is to see -/

/-- What has to be true of a text, with `behind` behind it, for an error to be right about it.  A
stray character is one that nothing starts with.  A bad numeral is a whole run of numeral characters,
and judging it gives that error.  An open comment goes on to the end of the text and holds no closing
mark, one that overlaps the opening mark apart.  A bad string starts with a quote and stays on its
line. -/
def LexicalError.HoldsOf (e : LexicalError) (text behind : List Char) : Prop :=
  match e with
  | .unexpectedChar c =>
    text = [c] ∧ isBlank c = false ∧ isWordPart c = false ∧ c ≠ '"' ∧
      ∀ kind ∈ Kind.symbols, kind.glyphs.head? ≠ some c
  | .invalidDigit _ _ | .missingHexDigits | .multiplePoints | .hexFloat =>
    StartsNumeral text ∧ IsRun isNumeralPart text behind.head? ∧ Numeral.classify text = .error e
  | .unterminatedComment =>
    behind = [] ∧ ∃ body, text = '/' :: '*' :: body ∧ ¬ Comment.closingMark <:+: body
  | .unterminatedString | .invalidEscape _ => text.head? = some '"' ∧ '\n' ∉ text

/-- A character that is no symbol is the first of none either. -/
theorem Kind.head?_ne_of_ofSymbol?_eq_none {c : Char} (h : ofSymbol? [c] = none) :
    ∀ kind ∈ symbols, kind.glyphs.head? ≠ some c := by
  intro kind hkind hhead
  obtain ⟨cs, hglyphs⟩ := List.head?_eq_some_iff.mp hhead
  have hsome := isSome_ofSymbol?_of_prefix hkind (List.cons_ne_nil c []) ⟨cs, hglyphs.symm⟩
  rw [h] at hsome
  cases hsome

/-- Symbols are spelled in ASCII. -/
theorem Kind.toNat_lt_of_mem_glyphs {kind : Kind} (hkind : kind ∈ symbols) :
    ∀ c ∈ kind.glyphs, c.toNat < 128 := by
  have hall : ∀ k ∈ symbols, k.glyphs.all (·.toNat < 128) = true := by decide
  intro c hc
  simpa using List.all_eq_true.mp (hall kind hkind) c hc

/-- Judging a numeral gives no other errors than those about numerals. -/
theorem LexicalError.holdsOf_of_classify {e : LexicalError} {text behind : List Char}
    (hstart : StartsNumeral text) (hrun : IsRun isNumeralPart text behind.head?)
    (h : Numeral.classify text = .error e) : e.HoldsOf text behind := by
  rcases Numeral.exists_break_of_classify h with ⟨-, rfl⟩ | ⟨front, c, rest, -, -, he, -⟩
  · exact ⟨hstart, hrun, h⟩
  · unfold Numeral.errorAt at he
    split_ifs at he
    · subst he
      exact ⟨hstart, hrun, h⟩
    · subst he
      exact ⟨hstart, hrun, h⟩
    · subst he
      exact ⟨hstart, hrun, h⟩

namespace Lexeme.Reads

variable {text behind : List Char} {next : Option Char}

/-- What reads as malformed is reported with an error that is right about it. -/
theorem holdsOf {e : LexicalError} (h : Reads text behind.head? (.malformed e)) :
    e.HoldsOf text behind := by
  generalize hnext : behind.head? = next at h
  cases h with
  | openComment hopen => exact ⟨List.head?_eq_none_iff.mp hnext, _, rfl, hopen⟩
  | badEscape hparts _ =>
    refine ⟨rfl, ?_⟩
    simpa using newline_not_mem_written hparts
  | openString hparts hloose _ =>
    refine ⟨rfl, ?_⟩
    simpa using newline_not_mem_open hparts hloose
  | badNumeral hstart hrun hclassify =>
    rw [← hnext] at hrun
    exact LexicalError.holdsOf_of_classify hstart hrun hclassify
  | stray hblank hword hdigit hquote hnone =>
    refine ⟨rfl, hblank, ?_, hquote, Kind.head?_ne_of_ofSymbol?_eq_none hnone⟩
    simpa [isWordPart, isWordStart, Char.isAlphanum, hdigit] using hword

/-- A token with a character outside ASCII is a string literal. -/
theorem kind_of_not_ascii {kind : Kind} {payload : Option (List Char)} {c : Char}
    (h : Reads text next (.token kind payload)) (hc : c ∈ text) (hascii : 128 ≤ c.toNat) :
    kind = .literal .string := by
  have hword : isWordPart c = false := by
    rw [Bool.eq_false_iff]
    intro hpart
    have hlt := toNat_lt_of_isNumeralPart (isNumeralPart_of_isWordPart hpart)
    omega
  cases h with
  | string => rfl
  | @keyword word =>
    rw [(Kind.isWord_glyphs word).isWordPart c hc] at hword
    cases hword
  | identifier htext =>
    rw [htext.isWordPart c hc] at hword
    cases hword
  | numeral _ hrun =>
    have hlt := toNat_lt_of_isNumeralPart (hrun.inside c hc)
    omega
  | symbol hmem =>
    have hlt := Kind.toNat_lt_of_mem_glyphs hmem c hc
    omega

end Lexeme.Reads

end FrontEnd
