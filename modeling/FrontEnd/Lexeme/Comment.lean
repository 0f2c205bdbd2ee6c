/-
# FrontEnd.Lexeme.Comment — how far a comment reaches.

A line comment reaches up to the newline and leaves it alone.  A block comment reaches to the
first closing mark behind its opening mark; block comments do not nest.
-/

namespace FrontEnd.Comment

/-- The line comment that starts here, opening mark included. -/
def line (cs : List Char) : List Char := cs.takeWhile (· ≠ '\n')

/-- What stands behind the opening mark of a block comment, up to and including the closing mark,
and whether there is one. -/
def blockBody : List Char → List Char × Bool
  | [] => ([], false)
  | '*' :: '/' :: _ => (['*', '/'], true)
  | c :: cs => let (text, closed) := blockBody cs; (c :: text, closed)

end FrontEnd.Comment
