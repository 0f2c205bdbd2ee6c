/-
# FrontEnd.Proofs.Session.Course — all that can happen on one compilation.

A course starts with a new compilation and goes through any number of moves.  A move is a step of
the session, if it fits the stage.  Besides, whoever sees the journal can take the records out while
a text is being scanned, and between any two steps the outside world may go on: files come and go,
the log file can be written to or not, time passes.

Along a course a ledger is kept of what would otherwise be lost: how many errors a scanner or a
reader had counted when it was given up, which records were taken out, and how many loads failed.

What a step does to the compilation is soon said: it takes the records out, or it is work of the kind
that `Compilation.Works` tells of (`perform_cases`).
-/
import FrontEnd.Proofs.Compilation.Work
import FrontEnd.Session

namespace FrontEnd

/-! ## New compilations -/

/-- A compilation on which nothing has happened yet. -/
inductive Compilation.IsNew : Compilation → Prop
  | withoutLog (settings : Settings) (host : Host) : IsNew (.withoutLog settings host)
  | ofSettings {settings : Settings} {host : Host} {c : Compilation} :
      ofSettings settings host = .ok c → IsNew c

/-- Either there is no log file, or it was opened. -/
theorem Compilation.ofSettings_cases {settings : Settings} {host : Host} {c : Compilation}
    (h : ofSettings settings host = .ok c) :
    c = .withoutLog settings host ∨
      ∃ path l disk, settings.logFile = some path ∧ host.disk.openAtEnd path = .ok (l, disk) ∧
        c = ⟨settings, .empty, ⟨#[], some l⟩, { host with disk := disk }⟩ := by
  unfold ofSettings at h
  split at h
  · exact Or.inl (Except.ok.inj h).symm
  · rename_i path hpath
    right
    unfold Diagnostic.Journal.withLog at h
    cases hopen : host.disk.openAtEnd path with
    | ok opened =>
      rw [hopen] at h
      exact ⟨path, opened.1, opened.2, hpath, hopen, (Except.ok.inj h).symm⟩
    | error fault =>
      rw [hopen] at h
      cases h

namespace Compilation.IsNew

variable {c : Compilation}

/-- A new compilation has no strings and no records, whether it keeps a log or not. -/
theorem exists_eq (h : c.IsNew) :
    ∃ settings log host, c = ⟨settings, .empty, ⟨#[], log⟩, host⟩ := by
  cases h with
  | withoutLog settings host => exact ⟨settings, none, host, rfl⟩
  | @ofSettings settings host _ hopen =>
    rcases ofSettings_cases hopen with rfl | ⟨path, l, disk, -, -, rfl⟩
    · exact ⟨settings, none, host, rfl⟩
    · exact ⟨settings, some l, _, rfl⟩

theorem records_eq (h : c.IsNew) : c.records = [] := by
  obtain ⟨settings, log, host, rfl⟩ := h.exists_eq
  rfl

theorem strings_eq (h : c.IsNew) : c.strings = .empty := by
  obtain ⟨settings, log, host, rfl⟩ := h.exists_eq
  rfl

end Compilation.IsNew

namespace Session

/-! ## Moves -/

/-- The session with something done to its compilation, whatever the stage. -/
def update (f : Compilation → Compilation) : Session → Session
  | .idle c => .idle (f c)
  | .scanning s => .scanning { s with compilation := f s.compilation }
  | .reading r => .reading { r with scanner := { r.scanner with compilation := f r.compilation } }

@[simp]
theorem compilation_update (f : Compilation → Compilation) (session : Session) :
    (session.update f).compilation = f session.compilation := by
  cases session <;> rfl

/-- What can happen in a session. -/
inductive Move where
  | step (step : Step)
  /-- The records are taken out in passing, at any stage. -/
  | take
  /-- The world outside goes on. -/
  | outside (host : Host)

/-- The reply to a move with the session that follows; nothing when it is a step that does not fit
the stage. -/
def make (session : Session) : Move → Option (Reply × Session)
  | .step step => session.perform step
  | .take =>
    some (.records session.compilation.takeRecords.1, session.update fun c => c.takeRecords.2)
  | .outside host => some (.nothing, session.update fun c => { c with host := host })

namespace Move

/-- Whether a scanner is opened. -/
def opensScanner : Move → Bool
  | .step (.openText _) | .step .openEmpty => true
  | _ => false

/-- Whether a reader is made. -/
def opensReader : Move → Bool
  | .step .startReading => true
  | _ => false

/-- Whether the scanner at work is given up, if there is one. -/
def endsScanner : Move → Bool
  | .step (.openText _) | .step .openEmpty | .step .close => true
  | _ => false

/-- Whether the reader at work is given up, if there is one. -/
def endsReader : Move → Bool
  | .step (.openText _) | .step .openEmpty | .step .close | .step .stopReading => true
  | _ => false

/-- Whether records are taken out. -/
def takes : Move → Bool
  | .take | .step .takeRecords => true
  | _ => false

end Move

/-! ## The ledger -/

/-- The error count of the scanner at work, if there is one. -/
def scannerCounts : Session → List Nat
  | .idle _ => []
  | .scanning s => [s.errors]
  | .reading r => [r.scanner.errors]

/-- The error count of the reader at work, if there is one. -/
def readerCounts : Session → List Nat
  | .reading r => [r.errors]
  | _ => []

/-- The error counts of scanners that a move puts an end to. -/
def endedScanners (session : Session) (m : Move) : List Nat :=
  if m.endsScanner then session.scannerCounts else []

/-- The error counts of readers that a move puts an end to. -/
def endedReaders (session : Session) (m : Move) : List Nat :=
  if m.endsReader then session.readerCounts else []

/-- The records that are handed out with a reply. -/
def Reply.taken : Reply → List Diagnostic
  | .records ds => ds
  | _ => []

/-- The number of failed loads that a reply tells of. -/
def Reply.failedLoads : Reply → Nat
  | .loaded (.error _) => 1
  | _ => 0

/-- What has become of the scanners and readers that were given up, of the records that were taken
out, and of loads. -/
structure Ledger where
  /-- The error counts of the scanners, each at its end. -/
  scanners : List Nat
  /-- The error counts of the readers, each at its end. -/
  readers : List Nat
  taken : List Diagnostic
  failedLoads : Nat

namespace Ledger

/-- The ledger in which nothing is entered yet. -/
def blank : Ledger := ⟨[], [], [], 0⟩

/-- Enters a move with its reply. -/
def enter (l : Ledger) (session : Session) (m : Move) (reply : Reply) : Ledger where
  scanners := l.scanners ++ session.endedScanners m
  readers := l.readers ++ session.endedReaders m
  taken := l.taken ++ reply.taken
  failedLoads := l.failedLoads + reply.failedLoads

/-- Records that a move hands out are accounted for together with those it leaves. -/
theorem taken_enter {l : Ledger} {session session' : Session} {m : Move} {reply : Reply}
    {new : List Diagnostic}
    (h : reply.taken ++ session'.compilation.records = session.compilation.records ++ new) :
    (l.enter session m reply).taken ++ session'.compilation.records =
      l.taken ++ session.compilation.records ++ new := by
  rw [enter, List.append_assoc, h, List.append_assoc]

end Ledger

/-! ## Courses -/

/-- The moves made on a compilation, the session they have led to, and the ledger kept of them. -/
inductive Course (c : Compilation) : List Move → Session → Ledger → Prop
  | start : Course c [] (.idle c) .blank
  | move {moves : List Move} {session session' : Session} {ledger : Ledger} {m : Move}
      {reply : Reply} :
      Course c moves session ledger → session.make m = some (reply, session') →
      Course c (moves ++ [m]) session' (ledger.enter session m reply)

/-! ## What a step does to the compilation -/

section Step

variable {session session' : Session} {step : Step} {reply : Reply}

/-- The step does work and hands out no records. -/
def OnlyWorks (c : Compilation) (reply : Reply) (session' : Session) : Prop :=
  (∃ n, c.Works n session'.compilation) ∧ reply.taken = []

theorem onlyWorks_idle {c : Compilation} (h : (idle c).perform step = some (reply, session'))
    (hstep : step ≠ .takeRecords) : OnlyWorks c reply session' := by
  cases step <;> cases h
  case takeRecords => exact absurd rfl hstep
  case intern text => exact ⟨⟨0, .intern text .refl⟩, rfl⟩
  case openText | openEmpty | close | resolve | hasErrors => exact ⟨⟨0, .refl⟩, rfl⟩

theorem works_load (s : Scanner) (path : String) :
    ∃ n, s.compilation.Works n (s.load path).2.compilation := by
  unfold Scanner.load
  cases SourceFile.load s.compilation.host.disk path with
  | ok file => exact ⟨0, .tell (Event.isForeign_loaded _ _) .refl⟩
  | error e => exact ⟨1, .report _ _ _ .refl⟩

theorem onlyWorks_scanning {s : Scanner}
    (h : (scanning s).perform step = some (reply, session')) :
    OnlyWorks s.compilation reply session' := by
  cases step <;> cases h
  case next | nextBeforeEnd =>
    obtain ⟨n, hworks, -⟩ := s.accounts_next
    exact ⟨⟨n, hworks⟩, rfl⟩
  case collect =>
    obtain ⟨n, hworks, -⟩ := s.accounts_run
    exact ⟨⟨n, hworks⟩, rfl⟩
  case load path => exact ⟨works_load s path, rfl⟩
  case openText | openEmpty | close | startReading | hasErrors | peek | hasNext | source =>
    exact ⟨⟨0, .refl⟩, rfl⟩

theorem onlyWorks_reading {r : Header.Reader}
    (h : (reading r).perform step = some (reply, session')) :
    OnlyWorks r.compilation reply session' := by
  cases step <;> cases h
  case readHeader =>
    obtain ⟨n, hworks, -⟩ := r.accounts_read
    exact ⟨⟨n, hworks⟩, rfl⟩
  case consume =>
    obtain ⟨n, hworks, -⟩ := r.accounts_consume
    exact ⟨⟨n, hworks⟩, rfl⟩
  case expect kind =>
    obtain ⟨n, hworks, -⟩ := r.accounts_expect kind
    exact ⟨⟨n, hworks⟩, rfl⟩
  case openText | openEmpty | close | stopReading | current | resolve => exact ⟨⟨0, .refl⟩, rfl⟩

/-- A step takes the records out of an idle compilation, or does work. -/
theorem perform_cases (h : session.perform step = some (reply, session')) :
    (∃ c, session = .idle c ∧ step = .takeRecords ∧ reply = .records c.takeRecords.1 ∧
        session' = .idle c.takeRecords.2) ∨
      OnlyWorks session.compilation reply session' := by
  cases session with
  | idle c =>
    by_cases hstep : step = .takeRecords
    · subst hstep
      cases h
      exact Or.inl ⟨c, rfl, rfl, rfl, rfl⟩
    · exact Or.inr (onlyWorks_idle h hstep)
  | scanning s => exact Or.inr (onlyWorks_scanning h)
  | reading r => exact Or.inr (onlyWorks_reading h)

end Step

end Session

end FrontEnd
