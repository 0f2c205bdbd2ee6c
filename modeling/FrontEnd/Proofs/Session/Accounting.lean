/-
# FrontEnd.Proofs.Session.Accounting — no error goes uncounted.

Errors are counted where they are found: by the scanner, by the header reader, and, when a file
cannot be loaded, by nobody but the caller, who gets the error in reply.  The journal has a record
of each.  A move is balanced when the records it adds or hands out account for what it adds to the
counts (`Balanced`).  Every move is (`balanced_make`), and so is every course of moves.
-/
import FrontEnd.Proofs.Session.Course
import Mathlib.Algebra.Ring.Nat

namespace FrontEnd

namespace Session

/-! ## One move -/

/-- The errors counted by the scanner and the reader at work. -/
def errors (session : Session) : Nat := session.scannerCounts.sum + session.readerCounts.sum

@[simp]
theorem errors_scanning (s : Scanner) : (scanning s).errors = s.errors := by
  simp [errors, scannerCounts, readerCounts]

@[simp]
theorem errors_reading (r : Header.Reader) : (reading r).errors = r.scanner.errors + r.errors := by
  simp [errors, scannerCounts, readerCounts]

/-- The errors counted by the scanner and the reader that a move puts an end to. -/
def endedErrors (session : Session) (m : Move) : Nat :=
  (session.endedScanners m).sum + (session.endedReaders m).sum

/-- The move adds records to those there were, handed out or not, with no warning among them; and it
adds as many errors to the counts as there are among these records. -/
def Balanced (session : Session) (m : Move) (reply : Reply) (session' : Session) : Prop :=
  ∃ new, reply.taken ++ session'.compilation.records = session.compilation.records ++ new ∧
    (∀ d ∈ new, d.level ≠ .warning) ∧
    session.endedErrors m + session'.errors + reply.failedLoads =
      session.errors + new.countP Diagnostic.isError

theorem Balanced.of_works {session session' : Session} {m : Move} {reply : Reply} {n : Nat}
    (hworks : session.compilation.Works n session'.compilation) (htaken : reply.taken = [])
    (herrors : session.endedErrors m + session'.errors + reply.failedLoads = session.errors + n) :
    session.Balanced m reply session' := by
  obtain ⟨new, hnew, hcount, hwarning⟩ := hworks.exists_records
  refine ⟨new, ?_, hwarning, ?_⟩
  · rw [htaken, List.nil_append, hnew]
  · rw [hcount, herrors]

/-- Handing the records out takes none away. -/
theorem Balanced.of_taken {session session' : Session} {m : Move} {reply : Reply}
    (htaken : reply.taken = session.compilation.records)
    (hrecords : session'.compilation.records = [])
    (herrors : session.endedErrors m + session'.errors + reply.failedLoads = session.errors) :
    session.Balanced m reply session' := by
  refine ⟨[], ?_, List.forall_mem_nil _, ?_⟩
  · rw [htaken, hrecords]
  · rw [herrors]
    rfl

/-- A step of a scanner that stays at work. -/
theorem Balanced.of_scanner {s s' : Scanner} {m : Move} {reply : Reply} (h : s.Accounts s')
    (htaken : reply.taken = []) (hloads : reply.failedLoads = 0)
    (hends : (scanning s).endedErrors m = 0) :
    (scanning s).Balanced m reply (.scanning s') := by
  obtain ⟨n, hworks, herrors⟩ := h
  refine .of_works hworks htaken ?_
  rw [hends, hloads, errors_scanning, errors_scanning, herrors]
  omega

/-- A step of a reader that stays at work. -/
theorem Balanced.of_reader {r r' : Header.Reader} {m : Move} {reply : Reply} (h : r.Accounts r')
    (htaken : reply.taken = []) (hloads : reply.failedLoads = 0)
    (hends : (reading r).endedErrors m = 0) :
    (reading r).Balanced m reply (.reading r') := by
  obtain ⟨n, hworks, herrors⟩ := h
  refine .of_works hworks htaken ?_
  rw [hends, hloads, errors_reading, errors_reading, herrors]
  omega

section Step

variable {session session' : Session} {step : Step} {reply : Reply}

theorem balanced_performIdle {c : Compilation}
    (h : performIdle c step = some (reply, session')) :
    (idle c).Balanced (.step step) reply session' := by
  cases step <;> cases h
  case intern text => exact .of_works (.intern text .refl) rfl rfl
  case takeRecords => exact .of_taken rfl rfl rfl
  case resolve | hasErrors => exact .of_works .refl rfl rfl

/-- A load that fails is reported, but the scanner does not count it. -/
theorem balanced_load (s : Scanner) (path : String) :
    (scanning s).Balanced (.step (.load path)) (.loaded (s.load path).1)
      (.scanning (s.load path).2) := by
  unfold Scanner.load
  cases SourceFile.load s.compilation.host.disk path with
  | ok file =>
    exact .of_scanner ⟨0, .tell (Event.isForeign_loaded _ _) .refl, rfl⟩ rfl rfl rfl
  | error e =>
    refine .of_works (.report _ _ _ .refl) rfl ?_
    rw [errors_scanning, errors_scanning]
    show 0 + s.errors + 1 = s.errors + 1
    rw [Nat.zero_add]

theorem balanced_performScanning {s : Scanner}
    (h : performScanning s step = some (reply, session')) :
    (scanning s).Balanced (.step step) reply session' := by
  have hsame : s.Accounts s := ⟨0, .refl, rfl⟩
  cases step <;> cases h
  case next | nextBeforeEnd => exact .of_scanner s.accounts_next rfl rfl rfl
  case collect => exact .of_scanner s.accounts_run rfl rfl rfl
  case load path => exact balanced_load s path
  case startReading =>
    -- The reader starts with no errors of its own, and the scanner in it keeps those it has.
    refine .of_works .refl rfl ?_
    rw [errors_scanning, errors_reading]
    exact Nat.zero_add _
  case hasErrors | peek | hasNext | source => exact .of_scanner hsame rfl rfl rfl

theorem balanced_performReading {r : Header.Reader}
    (h : performReading r step = some (reply, session')) :
    (reading r).Balanced (.step step) reply session' := by
  have hsame : r.Accounts r := ⟨0, .refl, rfl⟩
  cases step <;> cases h
  case readHeader => exact .of_reader r.accounts_read rfl rfl rfl
  case consume => exact .of_reader r.accounts_consume rfl rfl rfl
  case expect kind => exact .of_reader (r.accounts_expect kind) rfl rfl rfl
  case stopReading =>
    -- The ledger keeps what the reader has counted, and the scanner goes on with its own count.
    refine .of_works .refl rfl ?_
    have hended : (reading r).endedErrors (.step .stopReading) = r.errors := Nat.zero_add _
    rw [hended, errors_scanning, errors_reading]
    show r.errors + r.scanner.errors = r.scanner.errors + r.errors
    exact Nat.add_comm _ _
  case current | resolve => exact .of_reader hsame rfl rfl rfl

theorem balanced_perform (h : session.perform step = some (reply, session')) :
    session.Balanced (.step step) reply session' := by
  cases step
  case openText | openEmpty | close =>
    cases h
    -- These put an end to whatever is at work, and what it has counted goes to the ledger.
    exact .of_works .refl rfl rfl
  all_goals
    cases session with
    | idle c => exact balanced_performIdle h
    | scanning s => exact balanced_performScanning h
    | reading r => exact balanced_performReading h

end Step

/-- Every move is balanced. -/
theorem balanced_make {session session' : Session} {m : Move} {reply : Reply}
    (h : session.make m = some (reply, session')) : session.Balanced m reply session' := by
  cases m with
  | step step => exact balanced_perform h
  | take =>
    cases h
    refine .of_taken rfl ?_ ?_
    · rw [compilation_update]
      rfl
    · cases session <;> exact Nat.zero_add _
  | outside host =>
    cases h
    refine ⟨[], ?_, List.forall_mem_nil _, ?_⟩
    · rw [compilation_update]
      exact (List.append_nil _).symm
    · cases session <;> exact Nat.zero_add _

section Make

variable {session session' : Session} {m : Move} {reply : Reply}

/-- Scanners and readers are given up or still at work, and there is one more when one is opened. -/
theorem length_counts_make (h : session.make m = some (reply, session')) :
    (session.endedScanners m ++ session'.scannerCounts).length =
        session.scannerCounts.length + m.opensScanner.toNat ∧
      (session.endedReaders m ++ session'.readerCounts).length =
        session.readerCounts.length + m.opensReader.toNat := by
  cases m with
  | step step => cases session <;> cases step <;> cases h <;> exact ⟨rfl, rfl⟩
  | take => cases h; cases session <;> exact ⟨rfl, rfl⟩
  | outside host => cases h; cases session <;> exact ⟨rfl, rfl⟩

/-- Records are handed out only when they are taken. -/
theorem taken_eq_nil_of_make (h : session.make m = some (reply, session'))
    (hm : m.takes = false) : reply.taken = [] := by
  cases m with
  | take => cases hm
  | outside host => cases h; rfl
  | step step =>
    cases session <;> cases step <;> cases h
    case idle.takeRecords.refl => cases hm
    all_goals rfl

end Make

/-! ## A course of moves -/

namespace Course

variable {c : Compilation} {moves : List Move} {session : Session} {ledger : Ledger}

/-- The ledger and the session at hand have a count for each scanner and each reader. -/
theorem length_counts (h : Course c moves session ledger) :
    (ledger.scanners ++ session.scannerCounts).length = moves.countP Move.opensScanner ∧
      (ledger.readers ++ session.readerCounts).length = moves.countP Move.opensReader := by
  induction h with
  | start => exact ⟨rfl, rfl⟩
  | @move moves session session' ledger m reply _ hmake ih =>
    obtain ⟨hscanners, hreaders⟩ := ih
    obtain ⟨hscanners', hreaders'⟩ := length_counts_make hmake
    have hcount (p : Move → Bool) : (moves ++ [m]).countP p = moves.countP p + (p m).toNat := by
      rw [List.countP_append, List.countP_singleton]
      cases p m <;> rfl
    dsimp only [Ledger.enter]
    constructor
    · rw [List.append_assoc, List.length_append, hscanners', ← Nat.add_assoc,
        ← List.length_append, hscanners, hcount]
    · rw [List.append_assoc, List.length_append, hreaders', ← Nat.add_assoc,
        ← List.length_append, hreaders, hcount]

theorem taken_eq_nil (h : Course c moves session ledger) (hmoves : ∀ m ∈ moves, m.takes = false) :
    ledger.taken = [] := by
  induction h with
  | start => rfl
  | @move moves session session' ledger m reply _ hmake ih =>
    rw [List.forall_mem_append, List.forall_mem_singleton] at hmoves
    obtain ⟨hbefore, hm⟩ := hmoves
    rw [Ledger.enter, ih hbefore, taken_eq_nil_of_make hmake hm]
    rfl

/-- The records of a course, handed out or not, hold no warning and as many errors as were
counted. -/
theorem balanced (hc : c.IsNew) (h : Course c moves session ledger) :
    let emitted := ledger.taken ++ session.compilation.records
    emitted.countP Diagnostic.isError =
        (ledger.scanners ++ session.scannerCounts).sum +
          (ledger.readers ++ session.readerCounts).sum + ledger.failedLoads ∧
      ∀ d ∈ emitted, d.level ≠ .warning := by
  induction h with
  | start =>
    have hnone : Ledger.blank.taken ++ (idle c).compilation.records = [] := hc.records_eq
    dsimp only
    rw [hnone]
    exact ⟨rfl, List.forall_mem_nil _⟩
  | @move moves session session' ledger m reply _ hmake ih =>
    obtain ⟨hcount, hwarning⟩ := ih
    obtain ⟨new, hnew, hnewWarning, herrors⟩ := balanced_make hmake
    -- A move adds its records behind those there were, even when it hands some of them out.
    dsimp only
    rw [Ledger.taken_enter hnew]
    refine ⟨?_, List.forall_mem_append.mpr ⟨hwarning, hnewWarning⟩⟩
    rw [List.countP_append, hcount]
    simp only [errors, endedErrors] at herrors
    simp only [Ledger.enter, List.sum_append]
    omega

end Course

/-- Of the records emitted in a course of moves, those taken out and those still held, as many are
errors as the scanners and readers there have been have counted, and loads have failed; none is a
warning.  As long as no records are taken out, the compilation has errors just when there was one to
count. -/
theorem errors_accounted {c : Compilation} {moves : List Move} {session : Session} {ledger : Ledger}
    (hc : c.IsNew) (h : Course c moves session ledger) :
    let emitted := ledger.taken ++ session.compilation.records
    let scanners := ledger.scanners ++ session.scannerCounts
    let readers := ledger.readers ++ session.readerCounts
    let counted := scanners.sum + readers.sum + ledger.failedLoads
    scanners.length = moves.countP Move.opensScanner ∧
      readers.length = moves.countP Move.opensReader ∧
      emitted.countP Diagnostic.isError = counted ∧ (∀ d ∈ emitted, d.level ≠ .warning) ∧
      ((∀ m ∈ moves, m.takes = false) →
        (session.compilation.hasErrors = true ↔ 0 < counted)) := by
  obtain ⟨hscanners, hreaders⟩ := h.length_counts
  obtain ⟨hcount, hwarning⟩ := h.balanced hc
  refine ⟨hscanners, hreaders, hcount, hwarning, ?_⟩
  intro hmoves
  rw [h.taken_eq_nil hmoves, List.nil_append] at hcount
  rw [Compilation.hasErrors_iff, hcount]

/-- A path without a name leads nowhere. -/
theorem make_load_blank (s : Scanner) :
    let e : SourceFile.LoadError := .notFound ""
    let c := s.compilation.report .error e.message (some e.code) none
    (scanning s).make (.step (.load "")) =
      some (.loaded (.error e), .scanning { s with cursor := .empty, compilation := c }) := by
  have hsplit : s.compilation.host.disk.split "" = .error .notFound := by simp [Disk.split]
  have hload : SourceFile.load s.compilation.host.disk "" = .error (.notFound "") := by
    rw [SourceFile.load, Disk.find, Disk.locate, hsplit]
    rfl
  show some (Reply.loaded (s.load "").1, scanning (s.load "").2) = _
  rw [Scanner.load, hload]

/-- A stray character, a file that is not there, and a token that is not the required one. -/
theorem errors_accounted_one_of_each :
    let c := Compilation.withoutLog .standard (.ofDisk .fresh fun _ => 0)
    let moves : List Move :=
      [.step (.openText "a $ b"), .step .collect, .step (.load ""), .step .startReading,
        .step (.expect .identifier), .step .stopReading, .step .close]
    ∃ session ledger, Course c moves session ledger ∧
      ledger.scanners = [1] ∧ ledger.readers = [1] ∧ ledger.failedLoads = 1 ∧
      session.compilation.records.countP Diagnostic.isError = 3 ∧
      session.compilation.hasErrors = true := by
  intro c moves
  have hcourse := Course.start (c := c)
    |>.move (m := .step (.openText "a $ b")) rfl
    |>.move (m := .step .collect) rfl
    |>.move (m := .step (.load "")) (make_load_blank _)
    |>.move (m := .step .startReading) rfl
    |>.move (m := .step (.expect .identifier)) rfl
    |>.move (m := .step .stopReading) rfl
    |>.move (m := .step .close) rfl
  obtain ⟨-, -, hcount, -, herrors⟩ := errors_accounted (.withoutLog _ _) hcourse
  exact ⟨_, _, hcourse, by decide +kernel, by decide +kernel, by decide +kernel,
    hcount.trans (by decide +kernel), (herrors (by decide)).mpr (by decide +kernel)⟩

end Session

end FrontEnd
