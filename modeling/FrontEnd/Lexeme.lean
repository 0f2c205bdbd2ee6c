/-
# FrontEnd.Lexeme — the one piece of text that stands at the front of a source text.

Text that starts with a character other than a blank falls apart into pieces, each of which is a
token, a comment, or malformed.  `Lexeme.read` says how far the first piece reaches and what it
is.  It is a function of the text alone: no table, no position and no earlier piece matters.
Every piece is at least one character long (`Lexeme.text_read_ne_nil`).
-/
import FrontEnd.Lexeme.Comment
import FrontEnd.Lexeme.Numeral
import FrontEnd.Lexeme.Quoted
import FrontEnd.Text.CharClass

namespace FrontEnd

/-- What a piece of text turns out to be. -/
inductive Reading where
  /-- A token, with its text where the kind carries one. -/
  | token (kind : Kind) (payload : Option (List Char))
  | comment
  | malformed (error : LexicalError)
  deriving DecidableEq, Repr

/-- A piece of source text with its reading. -/
structure Lexeme where
  text : List Char
  reading : Reading
  deriving DecidableEq, Repr

namespace Lexeme

/-- The longest symbol among the spellings of at most `n` characters at the front of `cs`. -/
def symbolUpTo? (cs : List Char) : Nat → Option Kind
  | 0 => none
  | n + 1 =>
    match Kind.ofSymbol? (cs.take (n + 1)) with
    | some kind => some kind
    | none => symbolUpTo? cs n

/-- A comment that starts with two slashes. -/
def lineComment (cs : List Char) : Lexeme := ⟨Comment.line cs, .comment⟩

/-- A comment that starts with a slash and a star; `body` is what stands behind them. -/
def blockComment (body : List Char) : Lexeme :=
  let (text, closed) := Comment.blockBody body
  ⟨'/' :: '*' :: text, if closed then .comment else .malformed .unterminatedComment⟩

/-- A string literal; `body` is what stands behind the opening quote. -/
def quoted (body : List Char) : Lexeme :=
  let b := Quoted.read body
  ⟨'"' :: b.text,
    if b.closed then
      match b.badEscape with
      | some c => .malformed (.invalidEscape c)
      | none => .token (.literal .string) (some b.value)
    else .malformed .unterminatedString⟩

/-- A keyword or an identifier, whichever the longest run of word characters is. -/
def word (cs : List Char) : Lexeme :=
  let text := cs.takeWhile CharClass.isWordPart
  ⟨text,
    match Kind.ofKeyword? text with
    | some keyword => .token (.keyword keyword) none
    | none => .token .identifier (some text)⟩

/-- A numeral: the longest run of numeral characters, judged as a whole. -/
def numeral (cs : List Char) : Lexeme :=
  let text := cs.takeWhile CharClass.isNumeralPart
  ⟨text,
    match Numeral.classify text with
    | .ok family => .token (.literal family) (some text)
    | .error e => .malformed e⟩

/-- The longest operator or punctuation, or else one character that starts nothing. -/
def symbol (c : Char) (cs : List Char) : Lexeme :=
  match symbolUpTo? (c :: cs) Kind.longestSymbol with
  | some kind => ⟨kind.glyphs, .token kind none⟩
  | none => ⟨[c], .malformed (.unexpectedChar c)⟩

/-- The first piece of the text `c :: cs`, whose first character is no blank.  A slash starts a
comment only in front of another slash or a star, and a point a numeral only in front of a
digit. -/
def read (c : Char) (cs : List Char) : Lexeme :=
  if c = '/' ∧ cs.head? = some '/' then lineComment (c :: cs)
  else if c = '/' ∧ cs.head? = some '*' then blockComment cs.tail
  else if c = '"' then quoted cs
  else if CharClass.isWordStart c then word (c :: cs)
  else if c.isDigit then numeral (c :: cs)
  else if c = '.' ∧ cs.head?.any Char.isDigit then numeral (c :: cs)
  else symbol c cs

/-! ## Every piece has a character -/

theorem takeWhile_ne_nil {p : Char → Bool} {c : Char} {cs : List Char} (h : p c = true) :
    (c :: cs).takeWhile p ≠ [] := by
  simp [h]

theorem mem_symbols_of_symbolUpTo? {cs : List Char} {n : Nat} {kind : Kind}
    (h : symbolUpTo? cs n = some kind) : kind ∈ Kind.symbols := by
  induction n with
  | zero => cases h
  | succ n ih =>
    rw [symbolUpTo?] at h
    split at h
    · rename_i found
      cases h
      exact List.mem_of_find?_eq_some found
    · exact ih h

theorem text_word_ne_nil {c : Char} {cs : List Char} (h : CharClass.isWordPart c = true) :
    (word (c :: cs)).text ≠ [] :=
  takeWhile_ne_nil h

theorem text_numeral_ne_nil {c : Char} {cs : List Char} (h : CharClass.isNumeralPart c = true) :
    (numeral (c :: cs)).text ≠ [] :=
  takeWhile_ne_nil h

theorem text_symbol_ne_nil (c : Char) (cs : List Char) : (symbol c cs).text ≠ [] := by
  unfold symbol
  split
  · rename_i found
    exact Kind.glyphs_ne_nil_of_mem_symbols _ (mem_symbols_of_symbolUpTo? found)
  · exact List.cons_ne_nil _ _

/-- The first piece of a text is never empty. -/
theorem text_read_ne_nil (c : Char) (cs : List Char) : (read c cs).text ≠ [] := by
  unfold read
  split
  · rename_i h
    rw [h.1]
    simp [lineComment, Comment.line]
  · split
    · exact List.cons_ne_nil _ _
    · split
      · exact List.cons_ne_nil _ _
      · split
        · rename_i h
          exact text_word_ne_nil (CharClass.isWordPart_of_isWordStart h)
        · split
          · rename_i h
            apply text_numeral_ne_nil
            simp [CharClass.isNumeralPart, CharClass.isWordPart, Char.isAlphanum, h]
          · split
            · rename_i h
              rw [h.1]
              exact text_numeral_ne_nil rfl
            · exact text_symbol_ne_nil c cs

end Lexeme

end FrontEnd
