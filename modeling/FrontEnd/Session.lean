/-
# FrontEnd.Session — one compilation used step by step.

At any time a compilation is idle, being scanned, or having its header read, and each step fits
some of these stages.  A step that fits gives a reply and the session that follows; the
compilation lives on through all of them.
-/
import FrontEnd.Header.Reader

namespace FrontEnd

/-- The stage a compilation is in. -/
inductive Session where
  | idle (compilation : Compilation)
  | scanning (scanner : Scanner)
  | reading (reader : Header.Reader)

/-- What can be asked of a session. -/
inductive Session.Step where
  /-- Ends the stage and starts scanning a text. -/
  | openText (source : String)
  /-- Ends the stage and starts scanning without a text. -/
  | openEmpty
  /-- Ends the stage. -/
  | close
  | intern (text : String)
  | resolve (symbol : Symbol)
  | takeRecords
  | hasErrors
  | next
  | nextBeforeEnd
  | collect
  | peek (n : Nat)
  | hasNext (n : Nat)
  | load (path : String)
  | source
  /-- Goes on from scanning to reading a header. -/
  | startReading
  | readHeader
  | consume
  | expect (kind : Kind)
  | current
  /-- Goes back from reading a header to scanning. -/
  | stopReading
  deriving DecidableEq, Repr

/-- What a step answers. -/
inductive Session.Reply where
  | nothing
  | symbol (symbol : Symbol)
  | text (text : String)
  | records (records : List Diagnostic)
  | flag (value : Bool)
  /-- One flag for the scanner and one for the compilation. -/
  | flags (scanner compilation : Bool)
  | token (token : Token)
  | tokenIfAny (token : Option Token)
  | tokens (tokens : List Token)
  | charIfAny (c : Option Char)
  | loaded (result : Except SourceFile.LoadError Nat)
  | headerIfAny (header : Option Header)

namespace Session

/-- The compilation of a session. -/
def compilation : Session → Compilation
  | .idle c => c
  | .scanning s => s.compilation
  | .reading r => r.compilation

/-- A step of an idle compilation. -/
def performIdle (c : Compilation) : Step → Option (Reply × Session)
  | .intern text =>
    let (s, c) := c.intern text
    some (.symbol s, .idle c)
  | .resolve s => some (.text (c.resolve s), .idle c)
  | .takeRecords =>
    let (records, c) := c.takeRecords
    some (.records records, .idle c)
  | .hasErrors => some (.flag c.hasErrors, .idle c)
  | _ => none

/-- A step of a compilation that is being scanned. -/
def performScanning (s : Scanner) : Step → Option (Reply × Session)
  | .next =>
    let (token, s) := s.next
    some (.token token, .scanning s)
  | .nextBeforeEnd =>
    let (token, s) := s.nextBeforeEnd
    some (.tokenIfAny token, .scanning s)
  | .collect =>
    let (tokens, s) := s.collect
    some (.tokens tokens, .scanning s)
  | .peek n => some (.charIfAny (s.cursor.peek n), .scanning s)
  | .hasNext n => some (.flag (s.cursor.hasNext n), .scanning s)
  | .load path =>
    let (result, s) := s.load path
    some (.loaded result, .scanning s)
  | .source => some (.text s.cursor.source, .scanning s)
  | .hasErrors => some (.flags s.hasErrors s.compilation.hasErrors, .scanning s)
  | .startReading => some (.nothing, .reading (.ofScanner s))
  | _ => none

/-- A step of a compilation that is having its header read. -/
def performReading (r : Header.Reader) : Step → Option (Reply × Session)
  | .readHeader =>
    let (header, r) := r.read
    some (.headerIfAny header, .reading r)
  | .consume =>
    let (token, r) := r.consume
    some (.token token, .reading r)
  | .expect kind =>
    let (token, r) := r.expect kind
    some (.tokenIfAny token, .reading r)
  | .current => some (.token r.current, .reading r)
  | .resolve s => some (.text (r.resolve s), .reading r)
  | .stopReading => some (.nothing, .scanning r.scanner)
  | _ => none

/-- The reply to a step with the session that follows; nothing when the step does not fit the
stage. -/
def perform (session : Session) (step : Step) : Option (Reply × Session) :=
  match step with
  | .openText source => some (.nothing, .scanning (.ofText session.compilation source))
  | .openEmpty => some (.nothing, .scanning (.empty session.compilation))
  | .close => some (.nothing, .idle session.compilation)
  | step =>
    match session with
    | .idle c => performIdle c step
    | .scanning s => performScanning s step
    | .reading r => performReading r step

end Session

end FrontEnd
