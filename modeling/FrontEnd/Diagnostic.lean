/-
# FrontEnd.Diagnostic — one report to the user.

A diagnostic is a message with a level and the instant it was made, and, where they apply, a code
and the stretch of source text it concerns.
-/
import FrontEnd.Calendar
import FrontEnd.Diagnostic.Code
import FrontEnd.Diagnostic.Level
import FrontEnd.Span

namespace FrontEnd

/-- A report to the user; `time` is what the local clock showed, in seconds since its first of
January 1970. -/
structure Diagnostic where
  level : Diagnostic.Level
  message : String
  code : Option Diagnostic.Code
  span : Option Span
  time : Int
  deriving DecidableEq, Repr

namespace Diagnostic

/-- Whether the report makes the compilation fail. -/
def isError (d : Diagnostic) : Bool := d.level.isError

/-- The report as one line of a log. -/
def display (d : Diagnostic) : String :=
  "[" ++ (Calendar.ofSeconds d.time).display ++ "] " ++ d.level.name ++ ": " ++ d.message

end Diagnostic

end FrontEnd
