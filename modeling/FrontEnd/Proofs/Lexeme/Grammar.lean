/-
# FrontEnd.Proofs.Lexeme.Grammar — what a piece of text reads as.

`Lexeme.read` finds the first piece of a text by looking at the text from the front.
`Lexeme.Reads` says the same the other way round: it lists the pieces there are, each with the
character that may follow it.  A rule looks at the piece and at that one character, never further,
so what stands behind the next character cannot change how a piece is read.

`read_eq_iff` ties the two together: reading finds a piece exactly when the grammar has it in
front of the rest of the text.  In particular the grammar covers every text, and in one way only.
-/
import FrontEnd.Lexeme
import FrontEnd.Proofs.Lexeme.Comment
import FrontEnd.Proofs.Lexeme.Quoted
import FrontEnd.Proofs.Lexeme.Symbol
import FrontEnd.Proofs.Text.CharClass

namespace FrontEnd.Lexeme

open CharClass

/-- The text of a piece, the character that follows it, and what the piece reads as. -/
inductive Reads : List Char → Option Char → Reading → Prop
  | lineComment {body : List Char} {next : Option Char} :
      '\n' ∉ body → EndsLine next → Reads ('/' :: '/' :: body) next .comment
  | blockComment {body : List Char} {next : Option Char} :
      Comment.IsClosed body → Reads ('/' :: '*' :: body) next .comment
  | openComment {body : List Char} :
      Comment.IsOpen body → Reads ('/' :: '*' :: body) none (.malformed .unterminatedComment)
  | string {parts : List Quoted.Part} {next : Option Char} :
      (∀ p ∈ parts, p.InLine) → Quoted.firstUnknown parts = none →
      Reads ('"' :: (Quoted.written parts ++ ['"'])) next
        (.token (.literal .string) (some (Quoted.meaning parts)))
  | badEscape {parts : List Quoted.Part} {next : Option Char} {c : Char} :
      (∀ p ∈ parts, p.InLine) → Quoted.firstUnknown parts = some c →
      Reads ('"' :: (Quoted.written parts ++ ['"'])) next (.malformed (.invalidEscape c))
  | openString {parts : List Quoted.Part} {loose : List Char} {next : Option Char} :
      (∀ p ∈ parts, p.InLine) → Quoted.IsLoose loose → EndsLine next →
      Reads ('"' :: (Quoted.written parts ++ loose)) next (.malformed .unterminatedString)
  | keyword {word : Keyword} {next : Option Char} :
      (∀ c ∈ next, isWordPart c = false) → Reads word.glyphs next (.token (.keyword word) none)
  | identifier {text : List Char} {next : Option Char} :
      IsWord text → (∀ word : Keyword, word.glyphs ≠ text) →
      (∀ c ∈ next, isWordPart c = false) → Reads text next (.token .identifier (some text))
  | numeral {text : List Char} {next : Option Char} {family : Literal} :
      StartsNumeral text → IsRun isNumeralPart text next → Numeral.classify text = .ok family →
      Reads text next (.token (.literal family) (some text))
  | badNumeral {text : List Char} {next : Option Char} {e : LexicalError} :
      StartsNumeral text → IsRun isNumeralPart text next → Numeral.classify text = .error e →
      Reads text next (.malformed e)
  | symbol {kind : Kind} {next : Option Char} :
      kind ∈ Kind.symbols → (∀ c ∈ next, Kind.ofSymbol? (kind.glyphs ++ [c]) = none) →
      (kind = .operator .slash → ∀ c ∈ next, c ≠ '/' ∧ c ≠ '*') →
      (kind = .punctuation .period → ∀ c ∈ next, c.isDigit = false) →
      Reads kind.glyphs next (.token kind none)
  | stray {c : Char} {next : Option Char} :
      isBlank c = false → isWordStart c = false → c.isDigit = false → c ≠ '"' →
      Kind.ofSymbol? [c] = none → Reads [c] next (.malformed (.unexpectedChar c))

/-- A piece fits a text when it stands in front and reads as the grammar says. -/
def Fits (x : Lexeme) (cs : List Char) : Prop :=
  ∃ rest, cs = x.text ++ rest ∧ Reads x.text rest.head? x.reading

/-! ## Each routine finds a piece that fits -/

theorem fits_lineComment (cs : List Char) :
    (lineComment ('/' :: '/' :: cs)).Fits ('/' :: '/' :: cs) := by
  have htext : (lineComment ('/' :: '/' :: cs)).text = '/' :: '/' :: cs.takeWhile (· ≠ '\n') := rfl
  obtain ⟨hbody, hnext⟩ := isRun_line_iff.mp (isRun_takeWhile (· ≠ '\n') cs)
  refine ⟨cs.dropWhile (· ≠ '\n'), ?_, ?_⟩
  · rw [htext, List.cons_append, List.cons_append, List.takeWhile_append_dropWhile]
  · rw [htext]
    exact .lineComment hbody hnext

theorem fits_blockComment (cs : List Char) : (blockComment cs).Fits ('/' :: '*' :: cs) := by
  rcases Comment.isOpen_or_isClosed cs with hopen | ⟨body, rest, rfl, hclosed⟩
  · have hread : blockComment cs = ⟨'/' :: '*' :: cs, .malformed .unterminatedComment⟩ := by
      simp [blockComment, Comment.blockBody_of_isOpen hopen]
    rw [hread]
    exact ⟨[], by simp, .openComment hopen⟩
  · have hread : blockComment (body ++ rest) = ⟨'/' :: '*' :: body, .comment⟩ := by
      simp [blockComment, Comment.blockBody_of_isClosed hclosed]
    rw [hread]
    exact ⟨rest, rfl, .blockComment hclosed⟩

theorem fits_quoted (cs : List Char) : (quoted cs).Fits ('"' :: cs) := by
  obtain ⟨parts, tail, rfl, hparts, hending⟩ := Quoted.exists_parts cs
  cases hending with
  | closed rest =>
    refine ⟨rest, ?_, ?_⟩
    · simp [quoted, Quoted.read_of_closed hparts]
    · simp only [quoted, Quoted.read_of_closed hparts, if_true]
      cases hunknown : Quoted.firstUnknown parts with
      | none => exact .string hparts hunknown
      | some c => exact .badEscape hparts hunknown
  | unclosed loose rest hloose hrest =>
    refine ⟨rest, ?_, ?_⟩
    · simp [quoted, Quoted.read_of_unclosed hparts hloose hrest]
    · simp only [quoted, Quoted.read_of_unclosed hparts hloose hrest]
      exact .openString hparts hloose hrest

theorem fits_word {c : Char} (hc : isWordStart c = true) (cs : List Char) :
    (word (c :: cs)).Fits (c :: cs) := by
  have hrun := isRun_takeWhile isWordPart cs
  have htext : (c :: cs).takeWhile isWordPart = c :: cs.takeWhile isWordPart := by
    simp [isWordPart_of_isWordStart hc]
  refine ⟨cs.dropWhile isWordPart, ?_, ?_⟩
  · show c :: cs = (c :: cs).takeWhile isWordPart ++ cs.dropWhile isWordPart
    rw [htext, List.cons_append, List.takeWhile_append_dropWhile]
  · simp only [word, htext]
    cases hkeyword : Kind.ofKeyword? (c :: cs.takeWhile isWordPart) with
    | none =>
      exact .identifier (isWord_of_isWordStart hc hrun.inside)
        (Kind.ofKeyword?_eq_none_iff.mp hkeyword) hrun.stops
    | some keyword =>
      rw [← Kind.ofKeyword?_eq_some_iff.mp hkeyword]
      exact .keyword hrun.stops

theorem fits_numeral {cs : List Char} (h : StartsNumeral (cs.takeWhile isNumeralPart)) :
    (numeral cs).Fits cs := by
  have hrun := isRun_takeWhile isNumeralPart cs
  refine ⟨cs.dropWhile isNumeralPart, List.takeWhile_append_dropWhile.symm, ?_⟩
  simp only [numeral]
  cases hclassify : Numeral.classify (cs.takeWhile isNumeralPart) with
  | ok family => exact .numeral h hrun hclassify
  | error e => exact .badNumeral h hrun hclassify

/-- A numeral's start lies in its run. -/
theorem startsNumeral_takeWhile {cs : List Char} (h : StartsNumeral cs) :
    StartsNumeral (cs.takeWhile isNumeralPart) := by
  obtain ⟨c, cs, hc, rfl | rfl⟩ := h
  · exact ⟨c, cs.takeWhile isNumeralPart, hc, Or.inl (by simp [isNumeralPart_of_isDigit hc])⟩
  · refine ⟨c, cs.takeWhile isNumeralPart, hc, Or.inr ?_⟩
    rw [List.takeWhile_cons_of_pos (by decide),
      List.takeWhile_cons_of_pos (isNumeralPart_of_isDigit hc)]

/-- What the dispatch has excluded when it comes to symbols. -/
structure StartsSymbol (c : Char) (cs : List Char) : Prop where
  comment : c = '/' → ∀ d ∈ cs.head?, d ≠ '/' ∧ d ≠ '*'
  quote : c ≠ '"'
  word : isWordStart c = false
  digit : c.isDigit = false
  point : c = '.' → ∀ d ∈ cs.head?, d.isDigit = false

theorem fits_symbol {c : Char} {cs : List Char} (hblank : isBlank c = false)
    (h : StartsSymbol c cs) : (symbol c cs).Fits (c :: cs) := by
  unfold symbol
  cases hfind : symbolUpTo? (c :: cs) Kind.longestSymbol with
  | none =>
    have hnone := symbolUpTo?_eq_none_iff.mp hfind
    exact ⟨cs, rfl, .stray hblank h.word h.digit h.quote hnone⟩
  | some kind =>
    have hlongest := symbolUpTo?_eq_some_iff.mp hfind
    obtain ⟨rest, hrest⟩ := hlongest.front
    rw [← hrest] at hlongest
    obtain ⟨hmem, hnext⟩ := Kind.isLongest_append_iff.mp hlongest
    refine ⟨rest, hrest.symm, .symbol hmem hnext ?_ ?_⟩
    · rintro rfl
      obtain ⟨rfl, rfl⟩ := List.cons.inj hrest
      exact h.comment rfl
    · rintro rfl
      obtain ⟨rfl, rfl⟩ := List.cons.inj hrest
      exact h.point rfl

/-- Reading finds a piece that fits. -/
theorem fits_read {c : Char} (hc : isBlank c = false) (cs : List Char) :
    (read c cs).Fits (c :: cs) := by
  unfold read
  split_ifs with hline hblock hquote hword hdigit hpoint
  · obtain ⟨rfl, hhead⟩ := hline
    obtain ⟨rest, rfl⟩ := List.head?_eq_some_iff.mp hhead
    exact fits_lineComment rest
  · obtain ⟨rfl, hhead⟩ := hblock
    obtain ⟨rest, rfl⟩ := List.head?_eq_some_iff.mp hhead
    exact fits_blockComment rest
  · subst hquote
    exact fits_quoted cs
  · exact fits_word hword cs
  · exact fits_numeral (startsNumeral_takeWhile ⟨c, cs, hdigit, Or.inl rfl⟩)
  · obtain ⟨rfl, hany⟩ := hpoint
    obtain ⟨d, hhead, hd⟩ := (Option.any_eq_true _ _).mp hany
    obtain ⟨rest, rfl⟩ := List.head?_eq_some_iff.mp hhead
    exact fits_numeral (startsNumeral_takeWhile ⟨d, rest, hd, Or.inr rfl⟩)
  · refine fits_symbol hc ⟨?_, hquote, by simpa using hword, by simpa using hdigit, ?_⟩
    · rintro rfl d hd
      exact ⟨fun h => hline ⟨rfl, h ▸ hd⟩, fun h => hblock ⟨rfl, h ▸ hd⟩⟩
    · rintro rfl d hd
      rw [Bool.eq_false_iff]
      exact fun h => hpoint ⟨rfl, (Option.any_eq_true _ _).mpr ⟨d, hd, h⟩⟩

/-! ## Which routine reads a text is told by its first two characters -/

theorem read_slash_slash (cs : List Char) : read '/' ('/' :: cs) = lineComment ('/' :: '/' :: cs) :=
  rfl

theorem read_slash_star (cs : List Char) : read '/' ('*' :: cs) = blockComment cs := rfl

theorem read_quote (cs : List Char) : read '"' cs = quoted cs := rfl

theorem read_wordStart {c : Char} (hc : isWordStart c = true) (cs : List Char) :
    read c cs = word (c :: cs) := by
  have hslash : c ≠ '/' := ne_of_class hc rfl
  have hquote : c ≠ '"' := ne_of_class hc rfl
  simp [read, hslash, hquote, hc]

theorem read_numeral {c : Char} {cs : List Char} (h : StartsNumeral (c :: cs)) :
    read c cs = numeral (c :: cs) := by
  obtain ⟨d, ds, hd, heq | heq⟩ := h
  · obtain ⟨rfl, rfl⟩ := List.cons.inj heq
    have hslash : c ≠ '/' := ne_of_class hd rfl
    have hquote : c ≠ '"' := ne_of_class hd rfl
    simp [read, hslash, hquote, isWordStart_eq_false_of_isDigit hd, hd]
  · obtain ⟨rfl, rfl⟩ := List.cons.inj heq
    have hword : isWordStart '.' = false := rfl
    have hpoint : '.'.isDigit = false := rfl
    simp [read, hword, hpoint, hd]

theorem read_startsSymbol {c : Char} {cs : List Char} (h : StartsSymbol c cs) :
    read c cs = symbol c cs := by
  have hline : ¬ (c = '/' ∧ cs.head? = some '/') := fun ⟨hc, hd⟩ => (h.comment hc _ hd).1 rfl
  have hblock : ¬ (c = '/' ∧ cs.head? = some '*') := fun ⟨hc, hd⟩ => (h.comment hc _ hd).2 rfl
  have hpoint : ¬ (c = '.' ∧ cs.head?.any Char.isDigit = true) := by
    rintro ⟨hc, hany⟩
    obtain ⟨d, hd, hdigit⟩ := (Option.any_eq_true _ _).mp hany
    rw [h.point hc d hd] at hdigit
    cases hdigit
  simp only [read, hline, hblock, h.quote, h.word, h.digit, hpoint, if_false, Bool.false_eq_true]

/-- What the first character of a symbol excludes. -/
theorem startsSymbol_of_mem_symbols {kind : Kind} {c : Char} {cs rest : List Char}
    (hkind : kind ∈ Kind.symbols) (heq : kind.glyphs ++ rest = c :: cs)
    (hcomment : kind = .operator .slash → ∀ d ∈ rest.head?, d ≠ '/' ∧ d ≠ '*')
    (hpoint : kind = .punctuation .period → ∀ d ∈ rest.head?, d.isDigit = false) :
    StartsSymbol c cs := by
  have hne := Kind.glyphs_ne_nil_of_mem_symbols kind hkind
  obtain ⟨g, gs, hglyphs⟩ := List.exists_cons_of_ne_nil hne
  rw [hglyphs] at heq
  obtain ⟨rfl, rfl⟩ := List.cons.inj heq
  have hhead : kind.glyphs.head? = some g := by rw [hglyphs]; rfl
  obtain ⟨-, hword, hdigit, hquote⟩ := Kind.head_of_mem_symbols kind hkind g hhead
  refine ⟨?_, hquote, hword, hdigit, ?_⟩
  · rintro rfl
    rcases Kind.slash_of_mem_symbols kind hkind hhead with rfl | hassign
    · obtain ⟨-, rfl⟩ := List.cons.inj hglyphs
      exact hcomment rfl
    · obtain ⟨-, rfl⟩ := List.cons.inj (hglyphs.symm.trans hassign)
      rintro d ⟨⟩
      decide
  · rintro rfl
    obtain rfl := Kind.period_of_mem_symbols kind hkind hhead
    obtain ⟨-, rfl⟩ := List.cons.inj hglyphs
    exact hpoint rfl

/-! ## Every piece that fits is found -/

theorem lineComment_append {body rest : List Char} (hbody : '\n' ∉ body)
    (hrest : EndsLine rest.head?) :
    lineComment ('/' :: '/' :: (body ++ rest)) = ⟨'/' :: '/' :: body, .comment⟩ := by
  have htake := takeWhile_of_isRun (isRun_line_iff.mpr ⟨hbody, hrest⟩)
  show Lexeme.mk ('/' :: '/' :: (body ++ rest).takeWhile (· ≠ '\n')) .comment = _
  rw [htake]

/-- What a word reads as. -/
def wordReading (text : List Char) : Reading :=
  match Kind.ofKeyword? text with
  | some keyword => .token (.keyword keyword) none
  | none => .token .identifier (some text)

theorem word_append {text rest : List Char} (htext : IsWord text)
    (hrest : ∀ c ∈ rest.head?, isWordPart c = false) :
    word (text ++ rest) = ⟨text, wordReading text⟩ := by
  have htake := takeWhile_of_isRun ⟨htext.isWordPart, hrest⟩
  exact congrArg (fun t => Lexeme.mk t (wordReading t)) htake

theorem read_word {text rest cs : List Char} {c : Char} (htext : IsWord text)
    (heq : text ++ rest = c :: cs) : read c cs = word (text ++ rest) := by
  obtain ⟨d, ds, rfl, hd, -⟩ := htext
  obtain ⟨rfl, rfl⟩ := List.cons.inj heq
  exact read_wordStart hd _

theorem startsNumeral_append {text : List Char} (h : StartsNumeral text) (rest : List Char) :
    StartsNumeral (text ++ rest) := by
  obtain ⟨c, cs, hc, rfl | rfl⟩ := h
  · exact ⟨c, cs ++ rest, hc, Or.inl rfl⟩
  · exact ⟨c, cs ++ rest, hc, Or.inr rfl⟩

/-- What a run of numeral characters reads as. -/
def numeralReading (text : List Char) : Reading :=
  match Numeral.classify text with
  | .ok family => .token (.literal family) (some text)
  | .error e => .malformed e

theorem read_numeral_append {text rest cs : List Char} {c : Char} (htext : StartsNumeral text)
    (hrun : IsRun isNumeralPart text rest.head?) (heq : text ++ rest = c :: cs) :
    read c cs = ⟨text, numeralReading text⟩ := by
  have hstart := startsNumeral_append htext rest
  rw [heq] at hstart
  rw [read_numeral hstart, ← heq]
  exact congrArg (fun t => Lexeme.mk t (numeralReading t)) (takeWhile_of_isRun hrun)

theorem read_symbol_append {kind : Kind} {rest cs : List Char} {c : Char}
    (hlongest : kind.IsLongest (kind.glyphs ++ rest)) (hstart : StartsSymbol c cs)
    (heq : kind.glyphs ++ rest = c :: cs) : read c cs = ⟨kind.glyphs, .token kind none⟩ := by
  rw [heq] at hlongest
  rw [read_startsSymbol hstart, symbol, symbolUpTo?_eq_some_iff.mpr hlongest]

theorem read_stray {c : Char} {cs : List Char} (hstart : StartsSymbol c cs)
    (hnone : Kind.ofSymbol? [c] = none) : read c cs = ⟨[c], .malformed (.unexpectedChar c)⟩ := by
  rw [read_startsSymbol hstart, symbol, symbolUpTo?_eq_none_iff.mpr hnone]

/-- A piece that reads in front of a text is what reading the text finds. -/
theorem read_of_reads {text rest cs : List Char} {c : Char} {reading : Reading}
    (h : Reads text rest.head? reading) (heq : text ++ rest = c :: cs) :
    read c cs = ⟨text, reading⟩ := by
  generalize hnext : rest.head? = next at h
  cases h with
  | lineComment hbody hline =>
    obtain ⟨rfl, rfl⟩ := List.cons.inj heq
    rw [← hnext] at hline
    exact (read_slash_slash _).trans (lineComment_append hbody hline)
  | @blockComment body _ hclosed =>
    obtain ⟨rfl, rfl⟩ := List.cons.inj heq
    show read '/' ('*' :: (body ++ rest)) = _
    rw [read_slash_star]
    simp [blockComment, Comment.blockBody_of_isClosed hclosed]
  | openComment hopen =>
    obtain rfl := List.head?_eq_none_iff.mp hnext
    rw [List.append_nil] at heq
    obtain ⟨rfl, rfl⟩ := List.cons.inj heq
    rw [read_slash_star]
    simp [blockComment, Comment.blockBody_of_isOpen hopen]
  | string hparts hknown =>
    obtain ⟨rfl, rfl⟩ := List.cons.inj heq
    rw [read_quote]
    simp [quoted, Quoted.read_of_closed hparts, hknown]
  | badEscape hparts hunknown =>
    obtain ⟨rfl, rfl⟩ := List.cons.inj heq
    rw [read_quote]
    simp [quoted, Quoted.read_of_closed hparts, hunknown]
  | openString hparts hloose hline =>
    obtain ⟨rfl, rfl⟩ := List.cons.inj heq
    rw [← hnext] at hline
    rw [read_quote]
    simp [quoted, Quoted.read_of_unclosed hparts hloose hline]
  | @keyword k _ hstop =>
    rw [← hnext] at hstop
    rw [read_word (Kind.isWord_glyphs k) heq, word_append (Kind.isWord_glyphs k) hstop,
      wordReading, Kind.ofKeyword?_eq_some_iff.mpr rfl]
  | identifier hword hnot hstop =>
    rw [← hnext] at hstop
    rw [read_word hword heq, word_append hword hstop, wordReading,
      Kind.ofKeyword?_eq_none_iff.mpr hnot]
  | numeral hstart hrun hclassify =>
    rw [← hnext] at hrun
    rw [read_numeral_append hstart hrun heq, numeralReading, hclassify]
  | badNumeral hstart hrun hclassify =>
    rw [← hnext] at hrun
    rw [read_numeral_append hstart hrun heq, numeralReading, hclassify]
  | symbol hmem hlonger hcomment hpoint =>
    rw [← hnext] at hlonger hcomment hpoint
    have hlongest := Kind.isLongest_append_iff.mpr ⟨hmem, hlonger⟩
    exact read_symbol_append hlongest (startsSymbol_of_mem_symbols hmem heq hcomment hpoint) heq
  | @stray d _ hblank hword hdigit hquote hnone =>
    obtain ⟨rfl, rfl⟩ := List.cons.inj heq
    -- slash and point are spellings, so the character is neither
    have hslash : d ≠ '/' := by
      rintro rfl
      revert hnone
      decide
    have hpoint : d ≠ '.' := by
      rintro rfl
      revert hnone
      decide
    have hstart : StartsSymbol d rest :=
      ⟨fun h => absurd h hslash, hquote, hword, hdigit, fun h => absurd h hpoint⟩
    exact read_stray hstart hnone

/-- Reading finds a piece exactly when the grammar has it in front of the rest. -/
theorem read_eq_iff {c : Char} {cs : List Char} {x : Lexeme} (hc : isBlank c = false) :
    read c cs = x ↔ x.Fits (c :: cs) := by
  constructor
  · rintro rfl
    exact fits_read hc cs
  · rintro ⟨rest, heq, hreads⟩
    exact read_of_reads hreads heq.symm

/-! ## What a piece owes to its neighbours -/

/-- A piece starts with a character that is no blank. -/
theorem Reads.exists_cons {text : List Char} {next : Option Char} {reading : Reading}
    (h : Reads text next reading) : ∃ c cs, text = c :: cs ∧ isBlank c = false := by
  cases h with
  | lineComment => exact ⟨_, _, rfl, rfl⟩
  | blockComment => exact ⟨_, _, rfl, rfl⟩
  | openComment => exact ⟨_, _, rfl, rfl⟩
  | string => exact ⟨_, _, rfl, rfl⟩
  | badEscape => exact ⟨_, _, rfl, rfl⟩
  | openString => exact ⟨_, _, rfl, rfl⟩
  | @keyword word =>
    obtain ⟨c, cs, hglyphs, hc, -⟩ := Kind.isWord_glyphs word
    exact ⟨c, cs, hglyphs, isBlank_of_isWordPart (isWordPart_of_isWordStart hc)⟩
  | identifier hword =>
    obtain ⟨c, cs, rfl, hc, -⟩ := hword
    exact ⟨c, cs, rfl, isBlank_of_isWordPart (isWordPart_of_isWordStart hc)⟩
  | numeral hstart => exact exists_cons_of_startsNumeral hstart
  | badNumeral hstart => exact exists_cons_of_startsNumeral hstart
  | @symbol kind _ hmem =>
    obtain ⟨c, cs, hglyphs⟩ :=
      List.exists_cons_of_ne_nil (Kind.glyphs_ne_nil_of_mem_symbols kind hmem)
    exact ⟨c, cs, hglyphs, (Kind.head_of_mem_symbols kind hmem c (by rw [hglyphs]; rfl)).1⟩
  | stray hblank => exact ⟨_, _, rfl, hblank⟩

/-- No piece reads as the end of the text. -/
theorem Reads.ne_endOfText {text : List Char} {next : Option Char} {kind : Kind}
    {payload : Option (List Char)} (h : Reads text next (.token kind payload)) :
    kind ≠ .endOfText := by
  have hsymbols : ∀ k ∈ Kind.symbols, k ≠ .endOfText := by decide
  cases h with
  | string | keyword | identifier | numeral => exact Kind.noConfusion
  | symbol hmem => exact hsymbols kind hmem

/-- A token carries its text just when its kind says so. -/
theorem Reads.isSome_payload {text : List Char} {next : Option Char} {kind : Kind}
    {payload : Option (List Char)} (h : Reads text next (.token kind payload)) :
    payload.isSome = kind.hasPayload := by
  have hsymbols : ∀ k ∈ Kind.symbols, k.hasPayload = false := by decide
  cases h with
  | string | keyword | identifier | numeral => rfl
  | symbol hmem => exact (hsymbols kind hmem).symm

/-- The end of the text and a newline end every piece alike, an open comment apart. -/
theorem Reads.at_newline {text : List Char} {reading : Reading} (h : Reads text none reading)
    (hopen : reading ≠ .malformed .unterminatedComment) : Reads text (some '\n') reading := by
  have hline := endsLine_newline
  cases h with
  | lineComment hbody => exact .lineComment hbody hline
  | blockComment hclosed => exact .blockComment hclosed
  | openComment => exact absurd rfl hopen
  | string hparts hknown => exact .string hparts hknown
  | badEscape hparts hunknown => exact .badEscape hparts hunknown
  | openString hparts hloose => exact .openString hparts hloose hline
  | keyword => exact .keyword (by rintro c ⟨⟩; rfl)
  | identifier hword hnot => exact .identifier hword hnot (by rintro c ⟨⟩; rfl)
  | numeral hstart hrun hclassify =>
    exact .numeral hstart ⟨hrun.inside, by rintro c ⟨⟩; rfl⟩ hclassify
  | badNumeral hstart hrun hclassify =>
    exact .badNumeral hstart ⟨hrun.inside, by rintro c ⟨⟩; rfl⟩ hclassify
  | symbol hmem =>
    refine .symbol hmem ?_ (fun _ => by rintro c ⟨⟩; decide) (fun _ => by rintro c ⟨⟩; decide)
    rintro c ⟨⟩
    exact Kind.ofSymbol?_append_blank rfl
  | stray hblank hword hdigit hquote hnone => exact .stray hblank hword hdigit hquote hnone

end FrontEnd.Lexeme
