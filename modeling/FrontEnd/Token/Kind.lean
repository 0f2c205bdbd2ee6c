/-
# FrontEnd.Token.Kind — the kinds of token and their spellings.

A kind is one of two marks (no token yet, end of the text), an identifier, or a member of one of
four families: keywords, literals, operators and punctuation.  Keywords, operators and
punctuation each have one fixed spelling; identifiers and literals have none and carry their text
with them instead.  `Kind.all` fixes the order in which kinds are numbered.
-/

namespace FrontEnd

/-- The reserved words. -/
inductive Keyword where
  | breakWord | constWord | continueWord | defaultWord | elseWord | forWord | ifWord | returnWord
  | structWord | switchWord | pubWord | moduleWord
  deriving DecidableEq, Repr

/-- The families of literals. -/
inductive Literal where
  | int | float | string
  deriving DecidableEq, Repr

/-- The operators. -/
inductive Operator where
  | plus | minus | star | slash | percent | plusAssign | minusAssign | starAssign | slashAssign
  | percentAssign | andAnd | orOr | increment | decrement | equalEqual | less | greater | assign
  | bang | notEqual | lessEqual | greaterEqual | shiftLeft | shiftRight | shiftLeftAssign
  | shiftRightAssign | ampersand | pipe | andAssign | orAssign
  deriving DecidableEq, Repr

/-- The brackets and separators. -/
inductive Punctuation where
  | leftParen | rightParen | leftBracket | rightBracket | leftBrace | rightBrace | comma | period
  | colon | semicolon
  deriving DecidableEq, Repr

/-- What sort of token a token is. -/
inductive Kind where
  /-- No token has been read yet. -/
  | absent
  /-- The text has run out. -/
  | endOfText
  | identifier
  | keyword (word : Keyword)
  | literal (family : Literal)
  | operator (sign : Operator)
  | punctuation (mark : Punctuation)
  deriving DecidableEq, Repr

namespace Keyword

/-- Every keyword, in numbering order. -/
def all : List Keyword :=
  [.breakWord, .constWord, .continueWord, .defaultWord, .elseWord, .forWord, .ifWord,
   .returnWord, .structWord, .switchWord, .pubWord, .moduleWord]

/-- The letters a keyword is written with. -/
def glyphs : Keyword → List Char
  | .breakWord => ['b', 'r', 'e', 'a', 'k']
  | .constWord => ['c', 'o', 'n', 's', 't']
  | .continueWord => ['c', 'o', 'n', 't', 'i', 'n', 'u', 'e']
  | .defaultWord => ['d', 'e', 'f', 'a', 'u', 'l', 't']
  | .elseWord => ['e', 'l', 's', 'e']
  | .forWord => ['f', 'o', 'r']
  | .ifWord => ['i', 'f']
  | .returnWord => ['r', 'e', 't', 'u', 'r', 'n']
  | .structWord => ['s', 't', 'r', 'u', 'c', 't']
  | .switchWord => ['s', 'w', 'i', 't', 'c', 'h']
  | .pubWord => ['p', 'u', 'b']
  | .moduleWord => ['m', 'o', 'd', 'u', 'l', 'e']

end Keyword

namespace Operator

/-- Every operator, in numbering order. -/
def all : List Operator :=
  [.plus, .minus, .star, .slash, .percent, .plusAssign, .minusAssign, .starAssign, .slashAssign,
   .percentAssign, .andAnd, .orOr, .increment, .decrement, .equalEqual, .less, .greater, .assign,
   .bang, .notEqual, .lessEqual, .greaterEqual, .shiftLeft, .shiftRight, .shiftLeftAssign,
   .shiftRightAssign, .ampersand, .pipe, .andAssign, .orAssign]

/-- The characters an operator is written with. -/
def glyphs : Operator → List Char
  | .plus => ['+']
  | .minus => ['-']
  | .star => ['*']
  | .slash => ['/']
  | .percent => ['%']
  | .plusAssign => ['+', '=']
  | .minusAssign => ['-', '=']
  | .starAssign => ['*', '=']
  | .slashAssign => ['/', '=']
  | .percentAssign => ['%', '=']
  | .andAnd => ['&', '&']
  | .orOr => ['|', '|']
  | .increment => ['+', '+']
  | .decrement => ['-', '-']
  | .equalEqual => ['=', '=']
  | .less => ['<']
  | .greater => ['>']
  | .assign => ['=']
  | .bang => ['!']
  | .notEqual => ['!', '=']
  | .lessEqual => ['<', '=']
  | .greaterEqual => ['>', '=']
  | .shiftLeft => ['<', '<']
  | .shiftRight => ['>', '>']
  | .shiftLeftAssign => ['<', '<', '=']
  | .shiftRightAssign => ['>', '>', '=']
  | .ampersand => ['&']
  | .pipe => ['|']
  | .andAssign => ['&', '=']
  | .orAssign => ['|', '=']

/-- The upper-case name of an operator. -/
def name : Operator → String
  | .plus => "PLUS"
  | .minus => "MINUS"
  | .star => "STAR"
  | .slash => "SLASH"
  | .percent => "PERCENT"
  | .plusAssign => "PLUS_ASSIGN"
  | .minusAssign => "MINUS_ASSIGN"
  | .starAssign => "STAR_ASSIGN"
  | .slashAssign => "SLASH_ASSIGN"
  | .percentAssign => "PERCENT_ASSIGN"
  | .andAnd => "AND_AND"
  | .orOr => "OR_OR"
  | .increment => "INCREMENT"
  | .decrement => "DECREMENT"
  | .equalEqual => "EQUAL_EQUAL"
  | .less => "LESS"
  | .greater => "GREATER"
  | .assign => "ASSIGN"
  | .bang => "BANG"
  | .notEqual => "NOT_EQUAL"
  | .lessEqual => "LESS_EQUAL"
  | .greaterEqual => "GREATER_EQUAL"
  | .shiftLeft => "SHL"
  | .shiftRight => "SHR"
  | .shiftLeftAssign => "SHL_ASSIGN"
  | .shiftRightAssign => "SHR_ASSIGN"
  | .ampersand => "AMPERSAND"
  | .pipe => "PIPE"
  | .andAssign => "AND_ASSIGN"
  | .orAssign => "OR_ASSIGN"

end Operator

namespace Punctuation

/-- Every bracket and separator, in numbering order. -/
def all : List Punctuation :=
  [.leftParen, .rightParen, .leftBracket, .rightBracket, .leftBrace, .rightBrace, .comma,
   .period, .colon, .semicolon]

/-- The character a bracket or separator is written with. -/
def glyphs : Punctuation → List Char
  | .leftParen => ['(']
  | .rightParen => [')']
  | .leftBracket => ['[']
  | .rightBracket => [']']
  | .leftBrace => ['{']
  | .rightBrace => ['}']
  | .comma => [',']
  | .period => ['.']
  | .colon => [':']
  | .semicolon => [';']

/-- The upper-case name of a bracket or separator. -/
def name : Punctuation → String
  | .leftParen => "LPAREN"
  | .rightParen => "RPAREN"
  | .leftBracket => "LBRACKET"
  | .rightBracket => "RBRACKET"
  | .leftBrace => "LBRACE"
  | .rightBrace => "RBRACE"
  | .comma => "COMMA"
  | .period => "PERIOD"
  | .colon => "COLON"
  | .semicolon => "SEMICOLON"

end Punctuation

namespace Kind

/-- Every kind, in numbering order. -/
def all : List Kind :=
  [.absent, .endOfText, .identifier] ++ Keyword.all.map .keyword ++
    [.literal .int, .literal .float, .literal .string] ++
    Operator.all.map .operator ++ Punctuation.all.map .punctuation

/-- The characters of the fixed spelling, none for kinds without one. -/
def glyphs : Kind → List Char
  | .keyword word => word.glyphs
  | .operator sign => sign.glyphs
  | .punctuation mark => mark.glyphs
  | .absent | .endOfText | .identifier | .literal _ => []

/-- The fixed spelling, empty for kinds without one. -/
def spelling (k : Kind) : String := .ofList k.glyphs

/-- The upper-case name of a kind; a keyword's name is its spelling in capitals. -/
def name : Kind → String
  | .absent => "NONE"
  | .endOfText => "END"
  | .identifier => "IDENTIFIER"
  | .keyword word => .ofList (word.glyphs.map Char.toUpper)
  | .literal .int => "INT_LITERAL"
  | .literal .float => "FLOAT_LITERAL"
  | .literal .string => "STRING_LITERAL"
  | .operator sign => sign.name
  | .punctuation mark => mark.name

/-- A kind as messages name it: its spelling in quotes, or its name in small words. -/
def display : Kind → String
  | .absent => "none"
  | .endOfText => "end"
  | .identifier => "identifier"
  | .literal .int => "int literal"
  | .literal .float => "float literal"
  | .literal .string => "string literal"
  | k => "'" ++ k.spelling ++ "'"

/-- The number of a kind. -/
def index (k : Kind) : Nat := all.idxOf k

def isKeyword : Kind → Bool
  | .keyword _ => true
  | _ => false

def isLiteral : Kind → Bool
  | .literal _ => true
  | _ => false

def isOperator : Kind → Bool
  | .operator _ => true
  | _ => false

def isPunctuation : Kind → Bool
  | .punctuation _ => true
  | _ => false

/-- Whether tokens of this kind carry their text: identifiers and literals do. -/
def hasPayload : Kind → Bool
  | .identifier | .literal _ => true
  | _ => false

/-- The keyword written with exactly these letters. -/
def ofKeyword? (cs : List Char) : Option Keyword :=
  Keyword.all.find? (·.glyphs == cs)

/-- The kind of a word: the keyword it spells, in the same letter case, or else an identifier. -/
def ofWord (cs : List Char) : Kind :=
  match ofKeyword? cs with
  | some word => .keyword word
  | none => .identifier

/-- The operators and punctuation, in numbering order. -/
def symbols : List Kind :=
  Operator.all.map .operator ++ Punctuation.all.map .punctuation

/-- The operator or punctuation written with exactly these characters. -/
def ofSymbol? (cs : List Char) : Option Kind :=
  symbols.find? (·.glyphs == cs)

/-- No operator or punctuation is written with more characters than this. -/
def longestSymbol : Nat := 3

theorem length_glyphs_le_longestSymbol :
    ∀ k ∈ symbols, k.glyphs.length ≤ longestSymbol := by decide

/-- No symbol is written with no character at all. -/
theorem glyphs_ne_nil_of_mem_symbols : ∀ k ∈ symbols, k.glyphs ≠ [] := by decide

end Kind

end FrontEnd
