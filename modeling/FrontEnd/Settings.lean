/-
# FrontEnd.Settings — what can be chosen for one compilation.
-/

namespace FrontEnd

/-- The choices for one compilation.  Nothing needs to be chosen. -/
structure Settings where
  /-- The source file to compile. -/
  inputFile : Option String
  /-- Where output goes. -/
  outputFile : Option String
  /-- The file every diagnostic is written to as well. -/
  logFile : Option String
  /-- Whether each newly interned text is reported. -/
  traceInterning : Bool
  deriving DecidableEq, Repr, Inhabited

/-- The choices when none is made. -/
def Settings.standard : Settings := ⟨none, none, none, false⟩

end FrontEnd
