/-
# FrontEnd.Diagnostic.Journal — the diagnostics of one compilation.

A diagnostic goes to three places: the event stream, the log file if there is one, and the
journal's own records.  The records can be taken out, which empties the journal and leaves the
other two as they are.  A log file that refuses a line costs that line and a warning on the event
stream, nothing else.
-/
import FrontEnd.Host

namespace FrontEnd.Diagnostic

/-- The records that have not been taken out, and where the log is. -/
structure Journal where
  records : Array Diagnostic
  log : Option Disk.Location

/-- The log file could not be opened. -/
structure LogError where
  path : String
  fault : Fault
  deriving DecidableEq, Repr

/-- The wording of a log file that cannot be opened. -/
def LogError.message (e : LogError) : String :=
  "failed to open log file " ++ e.path ++ ": " ++ e.fault.message

namespace Journal

/-- A journal without a log file. -/
def empty : Journal := ⟨#[], none⟩

/-- A journal that also writes to the end of the file at `path`, which is made if need be. -/
def withLog (host : Host) (path : String) : Except LogError (Journal × Host) :=
  match host.disk.openAtEnd path with
  | .ok (l, disk) => .ok (⟨#[], some l⟩, { host with disk := disk })
  | .error fault => .error ⟨path, fault⟩

/-- Writes a diagnostic to the log, if there is one. -/
def writeLog (j : Journal) (host : Host) (d : Diagnostic) : Host :=
  match j.log with
  | none => host
  | some l =>
    match host.append l (d.display ++ "\n") with
    | .ok host => host
    | .error fault => host.tell (.logWriteFailed fault)

/-- Emits a diagnostic: first as an event, then to the log, then as a record. -/
def emit (j : Journal) (host : Host) (d : Diagnostic) : Journal × Host :=
  ({ j with records := j.records.push d }, j.writeLog (host.tell (.reported d)) d)

/-- Takes all records out. -/
def take (j : Journal) : List Diagnostic × Journal :=
  (j.records.toList, { j with records := #[] })

/-- The number of records. -/
def size (j : Journal) : Nat := j.records.size

/-- Whether there are no records. -/
def isEmpty (j : Journal) : Bool := j.records.isEmpty

/-- The number of records that make the compilation fail. -/
def errorCount (j : Journal) : Nat := j.records.countP isError

/-- The number of warnings. -/
def warningCount (j : Journal) : Nat := j.records.countP (·.level == .warning)

/-- Whether a record makes the compilation fail. -/
def hasErrors (j : Journal) : Bool := j.records.any isError

/-- Whether there is a log file. -/
def hasLog (j : Journal) : Bool := j.log.isSome

end Journal

end FrontEnd.Diagnostic
