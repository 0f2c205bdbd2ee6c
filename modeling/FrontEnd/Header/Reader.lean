/-
# FrontEnd.Header.Reader — reading a module header off a stream of tokens.

The reader holds one token at a time.  `expect` steps over that token if it has the kind the
grammar requires, and otherwise reports it and stays in front of it, so a header that fails leaves
the token that broke it as the current one.
-/
import FrontEnd.Header
import FrontEnd.Scanner

namespace FrontEnd.Header

/-- A scanner with the one token taken from it that is still to be dealt with, and how many
tokens did not meet what the grammar requires. -/
structure Reader where
  scanner : Scanner
  current : Token
  errors : Nat

namespace Reader

/-- A reader that has taken no token yet. -/
def ofScanner (scanner : Scanner) : Reader := ⟨scanner, .absent, 0⟩

/-- The state of the compilation. -/
def compilation (r : Reader) : Compilation := r.scanner.compilation

/-- Speaks to the event stream. -/
def tell (r : Reader) (e : Event) : Reader :=
  { r with scanner := { r.scanner with compilation := r.compilation.tell e } }

/-- Whether the scanner or the reader met anything wrong. -/
def hasErrors (r : Reader) : Bool := r.errors > 0 || r.scanner.hasErrors

/-- The text of a symbol. -/
def resolve (r : Reader) (s : Symbol) : String := r.scanner.strings.resolve s

/-- Takes the next token in place of the current one. -/
def consume (r : Reader) : Token × Reader :=
  let (token, scanner) := r.scanner.next
  (token,
    { r with scanner := scanner, current := token }.tell
      (.consumed (token.display scanner.strings)))

/-- The wording for a token of another kind than the one required. -/
def mismatch (required : Kind) (found : Token) : String :=
  "expected " ++ required.display ++ ", found " ++ found.kind.display ++ " at " ++
    found.span.display

/-- Reports the current token for not being of the kind required. -/
def refuse (r : Reader) (required : Kind) : Reader :=
  { r with
    scanner :=
      { r.scanner with
        compilation :=
          r.compilation.report .error (mismatch required r.current)
            (some .expectedToken) (some r.current.span) }
    errors := r.errors + 1 }

/-- Steps over the current token if it is of the kind required, and reports it otherwise. -/
def expect (r : Reader) (required : Kind) : Option Token × Reader :=
  if r.current.kind = required then (some r.current, r.consume.2)
  else (none, r.refuse required)

/-- What follows the optional `pub`; `start` is where the header starts. -/
def readFrom (r : Reader) (isPublic : Bool) (start : Span) : Option Header × Reader :=
  match r.expect (.keyword .moduleWord) with
  | (none, r) => (none, r)
  | (some _, r) =>
    match r.expect .identifier with
    | (none, r) => (none, r)
    | (some name, r) =>
      match r.expect (.punctuation .semicolon) with
      | (none, r) => (none, r)
      | (some semicolon, r) =>
        match name.symbol with
        | none => (none, r)
        | some symbol =>
          (some ⟨isPublic, symbol, start.join semicolon.span⟩,
            r.tell (.declared (r.resolve symbol) isPublic))

/-- Reads the module header that starts at the next token. -/
def read (r : Reader) : Option Header × Reader :=
  let (first, r) := r.consume
  if first.kind = .keyword .pubWord then r.consume.2.readFrom true first.span
  else r.readFrom false first.span

end Reader

end FrontEnd.Header
