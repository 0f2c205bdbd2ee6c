/-
# FrontEnd.Token — one classified stretch of source text.

A token has a kind, the stretch it covers, and, when its kind carries a payload, the symbol of
its text.  Its text is the payload's, or else the kind's own spelling.
-/
import FrontEnd.Span
import FrontEnd.Symbol.Table
import FrontEnd.Token.Kind

namespace FrontEnd

/-- A kind with the stretch of text it was read from, and the payload of kinds that have one. -/
structure Token where
  kind : Kind
  symbol : Option Symbol
  span : Span
  deriving DecidableEq, Repr

namespace Token

/-- The token that stands for one not read yet. -/
def absent : Token := ⟨.absent, none, .nowhere⟩

/-- Whether the token marks the end of the text. -/
def isEnd (t : Token) : Bool := t.kind == .endOfText

/-- The text of a token: its payload, or its kind's spelling. -/
def text (t : Token) (table : Symbol.Table) : String :=
  match t.symbol with
  | some s => table.resolve s
  | none => t.kind.spelling

/-- A token as traces show it: name, text if there is any, and position from one. -/
def display (t : Token) (table : Symbol.Table) : String :=
  let text := t.text table
  t.kind.name ++ (if text = "" then "" else " '" ++ text ++ "'") ++ " at " ++ t.span.display

end Token

end FrontEnd
