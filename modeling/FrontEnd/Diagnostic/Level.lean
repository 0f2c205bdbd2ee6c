/-
# FrontEnd.Diagnostic.Level — how serious a diagnostic is.

Levels are ordered from the least to the most serious.  The event stream knows no level above
error, so a critical diagnostic is an error there.
-/

namespace FrontEnd

/-- How serious an event on the event stream is. -/
inductive EventLevel where
  | trace | debug | info | warn | error
  deriving DecidableEq, Repr

/-- The name of an event level. -/
def EventLevel.name : EventLevel → String
  | .trace => "TRACE"
  | .debug => "DEBUG"
  | .info => "INFO"
  | .warn => "WARN"
  | .error => "ERROR"

namespace Diagnostic

/-- How serious a diagnostic is. -/
inductive Level where
  | debug | info | warning | error | critical
  deriving DecidableEq, Repr

namespace Level

/-- The place of a level in the order of seriousness. -/
def rank : Level → Nat
  | .debug => 0
  | .info => 1
  | .warning => 2
  | .error => 3
  | .critical => 4

instance : LT Level := ⟨fun a b => a.rank < b.rank⟩

instance (a b : Level) : Decidable (a < b) := inferInstanceAs (Decidable (a.rank < b.rank))

/-- The more serious of two levels. -/
def most (a b : Level) : Level := if a < b then b else a

/-- Whether a level makes a compilation fail. -/
def isError : Level → Bool
  | .error | .critical => true
  | _ => false

/-- The name of a level. -/
def name : Level → String
  | .debug => "DEBUG"
  | .info => "INFO"
  | .warning => "WARNING"
  | .error => "ERROR"
  | .critical => "CRITICAL"

/-- The level at which a diagnostic goes to the event stream. -/
def eventLevel : Level → EventLevel
  | .debug => .debug
  | .info => .info
  | .warning => .warn
  | .error | .critical => .error

end Level

end Diagnostic

end FrontEnd
