/-
# FrontEnd.Text.CharClass — the character classes of source text.

Words, numerals and blanks are classified over ASCII alone: a character outside ASCII belongs to
no class, so outside string literals and comments it starts nothing.  NUL is a blank like any
other; the end of a text is where its characters run out, never a character in it.
-/

namespace FrontEnd.CharClass

/-- Blanks separate tokens: space, tab, carriage return, newline and NUL. -/
def isBlank (c : Char) : Bool :=
  c == ' ' || c == '\t' || c == '\r' || c == '\n' || c == '\x00'

/-- A word starts with an ASCII letter or an underscore. -/
def isWordStart (c : Char) : Bool :=
  c.isAlpha || c == '_'

/-- A word goes on with ASCII letters, digits and underscores. -/
def isWordPart (c : Char) : Bool :=
  c.isAlphanum || c == '_'

/-- A numeral is one run of word characters and points, validated afterwards as a whole. -/
def isNumeralPart (c : Char) : Bool :=
  isWordPart c || c == '.'

theorem isWordPart_of_isWordStart {c : Char} (h : isWordStart c = true) :
    isWordPart c = true := by
  simp only [isWordStart, isWordPart, Char.isAlphanum, Bool.or_eq_true] at h ⊢
  exact h.imp_left Or.inl

theorem isNumeralPart_of_isWordPart {c : Char} (h : isWordPart c = true) :
    isNumeralPart c = true := by
  simp [isNumeralPart, h]

end FrontEnd.CharClass
