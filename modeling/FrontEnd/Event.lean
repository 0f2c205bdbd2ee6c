/-
# FrontEnd.Event — what a compilation tells the event stream.

The event stream is a running commentary for whoever watches the compilation.  Each event has a
level, a target that names the part of the compiler it comes from, and named fields.
-/
import FrontEnd.Diagnostic
import FrontEnd.Disk

namespace FrontEnd

/-- One event. -/
inductive Event where
  /-- The scanner handed out a token, shown as `shown`. -/
  | scanned (shown : String)
  /-- The scanner took in a file of so many bytes. -/
  | loaded (path : String) (bytes : Nat)
  /-- A diagnostic was emitted. -/
  | reported (diagnostic : Diagnostic)
  /-- A diagnostic could not be written to the log file. -/
  | logWriteFailed (fault : Fault)
  /-- The header reader took up a token, shown as `shown`. -/
  | consumed (shown : String)
  /-- A module header was read. -/
  | declared (name : String) (isPublic : Bool)
  deriving DecidableEq, Repr

namespace Event

/-- The value of a field. -/
inductive Field where
  | text (value : String)
  | number (value : Nat)
  | flag (value : Bool)
  deriving DecidableEq, Repr

/-- How serious an event is. -/
def level : Event → EventLevel
  | .scanned _ => .trace
  | .loaded _ _ => .debug
  | .reported d => d.level.eventLevel
  | .logWriteFailed _ => .warn
  | .consumed _ => .debug
  | .declared _ _ => .info

/-- The part of the compiler an event comes from. -/
def target : Event → String
  | .scanned _ => "solara::lex"
  | .loaded _ _ => "solara_lex::lexer::core"
  | .reported _ => "solara::diagnostic"
  | .logWriteFailed _ => "solara_util::diagnostic"
  | .consumed _ => "solara::par"
  | .declared _ _ => "solara::par"

/-- The fields of an event.  A diagnostic shows its code and its span only where it has them. -/
def fields : Event → List (String × Field)
  | .scanned shown => [("message", .text "scanned"), ("token", .text shown)]
  | .loaded path bytes =>
    [("message", .text "loaded source"), ("path", .text path), ("bytes", .number bytes)]
  | .reported d =>
    [("message", .text d.message)] ++
      (d.code.map fun c => ("code", .text c.display)).toList ++
      (d.span.map fun s => ("span", .text s.display)).toList
  | .logWriteFailed fault =>
    [("message", .text "failed to write diagnostic to log file"), ("error", .text fault.message)]
  | .consumed shown => [("message", .text "consume"), ("token", .text shown)]
  | .declared name isPublic =>
    [("message", .text "parsed module declaration"), ("module", .text name),
     ("public", .flag isPublic)]

end Event

end FrontEnd
