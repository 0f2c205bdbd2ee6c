/-
# FrontEnd.Proofs.Lexeme.Printed — how tokens are written.

Keywords, operators and punctuation are written by their spelling, identifiers and numerals as they
are, and string literals between quotes, with a choice of escapes for some characters.  `Printed`
lists these ways without a word about reading.

The two agree: what is printed reads as the token it was printed for, in front of a blank at least
(`Printed.reads`), and what reads as a token is a way of printing it (`Lexeme.Reads.printed`).
-/
import FrontEnd.Proofs.Lexeme.Grammar
import FrontEnd.Proofs.Lexeme.Numeral

namespace FrontEnd

open CharClass

/-- How a character can be written between quotes. -/
inductive Spelled : Char → List Char → Prop
  | raw {c : Char} : c ≠ '"' → c ≠ '\\' → c ≠ '\n' → Spelled c [c]
  | quote : Spelled '"' ['\\', '"']
  | backslash : Spelled '\\' ['\\', '\\']
  | newline : Spelled '\n' ['\\', 'n']
  | tab : Spelled '\t' ['\\', 't']
  | carriageReturn : Spelled '\r' ['\\', 'r']
  | nul : Spelled '\x00' ['\\', '0']

/-- The kind of a token, its text, and a way of writing it. -/
inductive Printed : Kind → List Char → List Char → Prop
  | keyword (word : Keyword) : Printed (.keyword word) word.glyphs word.glyphs
  | operator (sign : Operator) : Printed (.operator sign) sign.glyphs sign.glyphs
  | punctuation (mark : Punctuation) : Printed (.punctuation mark) mark.glyphs mark.glyphs
  | identifier {text : List Char} :
      IsWord text → (∀ word : Keyword, word.glyphs ≠ text) → Printed .identifier text text
  | numeral {text : List Char} {family : Literal} :
      StartsNumeral text → family ≠ .string → Numeral.classify text = .ok family →
      Printed (.literal family) text text
  | string {text : List Char} {spellings : List (List Char)} :
      List.Forall₂ Spelled text spellings →
      Printed (.literal .string) text ('"' :: (spellings.flatten ++ ['"']))

/-! ## A printed token reads as itself -/

/-- A spelling is a part of a string literal that stands for the character. -/
theorem exists_part_of_spelled {c : Char} {spelling : List Char} (h : Spelled c spelling) :
    ∃ p : Quoted.Part, p.text = spelling ∧ p.InLine ∧ p.value? = some c ∧ p.unknown? = none := by
  have hpair {e : Char} (hline : e ≠ '\n') (hvalue : Quoted.unescape? e = some c) :
      ∃ p : Quoted.Part, p.text = ['\\', e] ∧ p.InLine ∧ p.value? = some c ∧
        p.unknown? = none :=
    ⟨.pair e, rfl, hline, hvalue, by simp [Quoted.Part.unknown?, hvalue]⟩
  cases h with
  | raw hquote hbackslash hnewline =>
    exact ⟨.plain c, rfl, ⟨hquote, hbackslash, hnewline⟩, rfl, rfl⟩
  | quote => exact hpair (by decide) rfl
  | backslash => exact hpair (by decide) rfl
  | newline => exact hpair (by decide) rfl
  | tab => exact hpair (by decide) rfl
  | carriageReturn => exact hpair (by decide) rfl
  | nul => exact hpair (by decide) rfl

theorem exists_parts_of_spelled {text : List Char} {spellings : List (List Char)}
    (h : List.Forall₂ Spelled text spellings) :
    ∃ parts : List Quoted.Part, Quoted.written parts = spellings.flatten ∧
      (∀ p ∈ parts, p.InLine) ∧ Quoted.meaning parts = text ∧
      Quoted.firstUnknown parts = none := by
  induction h with
  | nil => exact ⟨[], rfl, by simp, rfl, rfl⟩
  | cons hc _ ih =>
    obtain ⟨p, htext, hline, hvalue, hunknown⟩ := exists_part_of_spelled hc
    obtain ⟨ps, hwritten, hlines, hmeaning, hnone⟩ := ih
    refine ⟨p :: ps, ?_, List.forall_mem_cons.mpr ⟨hline, hlines⟩, ?_, ?_⟩
    · rw [List.flatten_cons, ← htext, ← hwritten]
      rfl
    · rw [← hmeaning]
      exact List.filterMap_cons_some hvalue
    · simp only [Quoted.firstUnknown] at hnone ⊢
      rw [List.findSome?_cons, hunknown]
      exact hnone

theorem reads_symbol {kind : Kind} {next : Option Char} (hkind : kind ∈ Kind.symbols)
    (hnext : ∀ c ∈ next, isBlank c = true) : Lexeme.Reads kind.glyphs next (.token kind none) := by
  have hblank : ∀ c, isBlank c = true → c ≠ '/' ∧ c ≠ '*' ∧ c.isDigit = false := by
    intro c hc
    rcases isBlank_iff.mp hc with rfl | rfl | rfl | rfl | rfl <;> decide
  refine .symbol hkind ?_ ?_ ?_
  · intro c hc
    exact Kind.ofSymbol?_append_blank (hnext c hc)
  · intro _ c hc
    obtain ⟨hslash, hstar, -⟩ := hblank c (hnext c hc)
    exact ⟨hslash, hstar⟩
  · intro _ c hc
    exact (hblank c (hnext c hc)).2.2

/-- In front of a blank, or of nothing, a written token reads as the token that was written. -/
theorem Printed.reads {kind : Kind} {text written : List Char} {next : Option Char}
    (h : Printed kind text written) (hnext : ∀ c ∈ next, isBlank c = true) :
    ∃ payload, payload.getD kind.glyphs = text ∧
      Lexeme.Reads written next (.token kind payload) := by
  have hword : ∀ c ∈ next, isWordPart c = false := by
    intro c hc
    exact isWordPart_of_isBlank (hnext c hc)
  cases h with
  | keyword word => exact ⟨none, rfl, .keyword hword⟩
  | operator sign => exact ⟨none, rfl, reads_symbol (Kind.operator_mem_symbols sign) hnext⟩
  | punctuation mark => exact ⟨none, rfl, reads_symbol (Kind.punctuation_mem_symbols mark) hnext⟩
  | identifier htext hkeyword => exact ⟨some text, rfl, .identifier htext hkeyword hword⟩
  | numeral hstart _ hclassify =>
    have hrun : IsRun isNumeralPart text next := by
      refine ⟨Numeral.isNumeralPart_of_classify hclassify, ?_⟩
      intro c hc
      exact isNumeralPart_of_isBlank (hnext c hc)
    exact ⟨some text, rfl, .numeral hstart hrun hclassify⟩
  | string hspelled =>
    obtain ⟨parts, hwritten, hline, hmeaning, hunknown⟩ := exists_parts_of_spelled hspelled
    refine ⟨some text, rfl, ?_⟩
    rw [← hwritten, ← hmeaning]
    exact .string hline hunknown

/-! ## What reads as a token is printed so -/

/-- A part that is no unknown pair spells the character it stands for. -/
theorem exists_spelled_of_part {p : Quoted.Part} (hline : p.InLine) (hknown : p.unknown? = none) :
    ∃ c, p.value? = some c ∧ Spelled c p.text := by
  cases p with
  | plain c =>
    obtain ⟨hquote, hbackslash, hnewline⟩ := hline
    exact ⟨c, rfl, .raw hquote hbackslash hnewline⟩
  | pair e =>
    have hsome : (Quoted.unescape? e).isSome = true := by
      cases hvalue : Quoted.unescape? e with
      | none => simp [Quoted.Part.unknown?, hvalue] at hknown
      | some c => rfl
    obtain ⟨c, hc⟩ := Option.isSome_iff_exists.mp hsome
    refine ⟨c, hc, ?_⟩
    -- one case for each pair that has a meaning
    unfold Quoted.unescape? at hc
    split at hc
    · cases hc; exact .newline
    · cases hc; exact .tab
    · cases hc; exact .carriageReturn
    · cases hc; exact .nul
    · cases hc; exact .backslash
    · cases hc; exact .quote
    · cases hc

theorem forall₂_spelled_of_parts {parts : List Quoted.Part} (hline : ∀ p ∈ parts, p.InLine)
    (hknown : Quoted.firstUnknown parts = none) :
    List.Forall₂ Spelled (Quoted.meaning parts) (parts.map Quoted.Part.text) := by
  have hnone := List.findSome?_eq_none_iff.mp hknown
  clear hknown
  induction parts with
  | nil => exact .nil
  | cons p ps ih =>
    obtain ⟨hp, hps⟩ := List.forall_mem_cons.mp hline
    obtain ⟨hunknown, hunknowns⟩ := List.forall_mem_cons.mp hnone
    obtain ⟨c, hvalue, hspelled⟩ := exists_spelled_of_part hp hunknown
    have hmeaning : Quoted.meaning (p :: ps) = c :: Quoted.meaning ps :=
      List.filterMap_cons_some hvalue
    rw [hmeaning]
    exact .cons hspelled (ih hps hunknowns)

/-- What reads as a token is written as that token is. -/
theorem Lexeme.Reads.printed {text : List Char} {next : Option Char} {kind : Kind}
    {payload : Option (List Char)} (h : Lexeme.Reads text next (.token kind payload)) :
    Printed kind (payload.getD kind.glyphs) text := by
  cases h with
  | @string parts _ hline hknown =>
    have hwritten : Quoted.written parts = (parts.map Quoted.Part.text).flatten := List.flatMap_def
    rw [hwritten]
    exact .string (forall₂_spelled_of_parts hline hknown)
  | keyword hnext => exact .keyword _
  | identifier htext hkeyword _ => exact .identifier htext hkeyword
  | numeral hstart _ hclassify =>
    exact .numeral hstart (Numeral.classify_ne_string hclassify) hclassify
  | symbol hmem =>
    rcases Kind.exists_of_mem_symbols hmem with ⟨sign, rfl⟩ | ⟨mark, rfl⟩
    · exact .operator sign
    · exact .punctuation mark

/-- What reads as a token reads as the same token in front of a blank, or of nothing. -/
theorem Lexeme.Reads.before_blank {text : List Char} {next next' : Option Char} {kind : Kind}
    {payload : Option (List Char)} (h : Lexeme.Reads text next (.token kind payload))
    (hnext : ∀ c ∈ next', isBlank c = true) : Lexeme.Reads text next' (.token kind payload) := by
  obtain ⟨payload', htext, hreads⟩ := h.printed.reads hnext
  -- whether there is a payload is a matter of the kind
  have hsome : payload'.isSome = payload.isSome := by
    rw [hreads.isSome_payload, h.isSome_payload]
  have hsame : payload' = payload := by
    cases payload' with
    | none => exact (Option.isNone_iff_eq_none.mp (by simpa using hsome.symm)).symm
    | some word' =>
      obtain ⟨word, rfl⟩ := Option.isSome_iff_exists.mp hsome.symm
      exact congrArg some htext
  rw [← hsame]
  exact hreads

end FrontEnd
