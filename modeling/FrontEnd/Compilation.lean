/-
# FrontEnd.Compilation — what the phases of one compilation share.

A compilation has its settings, its string table, its journal of diagnostics and its host.  Each
phase takes the compilation, works on it and passes it on; nothing is shared between two
compilations.
-/
import FrontEnd.Diagnostic.Journal
import FrontEnd.Settings
import FrontEnd.Symbol.Table

namespace FrontEnd

/-- The state of one compilation. -/
structure Compilation where
  settings : Settings
  strings : Symbol.Table
  journal : Diagnostic.Journal
  host : Host

namespace Compilation

/-- A compilation that keeps no log, whatever its settings say. -/
def withoutLog (settings : Settings) (host : Host) : Compilation :=
  ⟨settings, .empty, .empty, host⟩

/-- A compilation that keeps a log if its settings name a file for it. -/
def ofSettings (settings : Settings) (host : Host) : Except Diagnostic.LogError Compilation :=
  match settings.logFile with
  | none => .ok (withoutLog settings host)
  | some path =>
    match Diagnostic.Journal.withLog host path with
    | .ok (journal, host) => .ok ⟨settings, .empty, journal, host⟩
    | .error e => .error e

/-- Speaks to the event stream. -/
def tell (c : Compilation) (e : Event) : Compilation := { c with host := c.host.tell e }

/-- Emits a diagnostic that carries the time of this moment. -/
def report (c : Compilation) (level : Diagnostic.Level) (message : String)
    (code : Option Diagnostic.Code) (span : Option Span) : Compilation :=
  let (time, host) := c.host.now
  let (journal, host) := c.journal.emit host ⟨level, message, code, span, time⟩
  { c with journal := journal, host := host }

/-- The trace of a newly interned text. -/
def internTrace (s : Symbol) (text : String) : String :=
  "[" ++ toString s.index ++ "]: " ++ text

/-- Interns a text.  If the settings ask for it, a new text is reported. -/
def intern (c : Compilation) (text : String) : Symbol × Compilation :=
  let (s, isNew, strings) := c.strings.internFull text
  let c := { c with strings := strings }
  (s, if isNew && c.settings.traceInterning then c.report .info (internTrace s text) none none
      else c)

/-- The text of a symbol, empty when this compilation never issued it. -/
def resolve (c : Compilation) (s : Symbol) : String := c.strings.resolve s

/-- Takes the records out of the journal. -/
def takeRecords (c : Compilation) : List Diagnostic × Compilation :=
  let (records, journal) := c.journal.take
  (records, { c with journal := journal })

/-- Whether the journal holds a record that makes the compilation fail. -/
def hasErrors (c : Compilation) : Bool := c.journal.hasErrors

end Compilation

end FrontEnd
