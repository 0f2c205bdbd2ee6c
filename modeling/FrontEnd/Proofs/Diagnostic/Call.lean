/-
# FrontEnd.Proofs.Diagnostic.Call — what becomes of diagnostics, call by call.

A diagnostic that is emitted leaves three traces: an event, a line in the log file, and a record in
the journal.  They go different ways from there.  Events and lines stay; records are handed out and
forgotten; a line can be refused, which is told by an event of its own.

`Call` lists what can be asked of a journal and what else can happen to the host meanwhile, and
`performAll` is any number of calls in any order.  What each trace comes to over all of them follows
from what it comes to in one call: the records from the calls alone (`taken_append_records`), the
events from the calls and from which lines were refused (`commentary_told`), and the log file from
what stands where it was opened (`log_of_file`, `sameAt_of_refused`).
-/
import FrontEnd.Diagnostic.Journal
import FrontEnd.Proofs.Diagnostic.Shown
import FrontEnd.Proofs.Disk

namespace FrontEnd

namespace Diagnostic.Journal

/-! ## Calls -/

/-- What can be asked about the records; asking changes nothing. -/
inductive Query where
  | records | size | isEmpty | errorCount | warningCount | hasErrors

/-- What comes back from a call. -/
inductive Answer where
  | nothing
  /-- Records that were taken out. -/
  | taken (ds : List Diagnostic)
  | records (ds : List Diagnostic)
  | number (n : Nat)
  | flag (b : Bool)

/-- The answer to a query. -/
def answer (j : Journal) : Query → Answer
  | .records => .records j.records.toList
  | .size => .number j.size
  | .isEmpty => .flag j.isEmpty
  | .errorCount => .number j.errorCount
  | .warningCount => .number j.warningCount
  | .hasErrors => .flag j.hasErrors

/-- What can be asked of a journal, and what else can happen to its host meanwhile. -/
inductive Call where
  | emit (d : Diagnostic)
  | take
  | ask (q : Query)
  /-- Somebody else speaks to the event stream. -/
  | tell (e : Event) (foreign : e.IsForeign)
  | askTime
  /-- Files come and go. -/
  | outside (change : Disk → Disk)

/-- The journal and its host behind a call. -/
def perform (p : Journal × Host) : Call → Journal × Host
  | .emit d => p.1.emit p.2 d
  | .take => (p.1.take.2, p.2)
  | .ask _ => p
  | .tell e _ => (p.1, p.2.tell e)
  | .askTime => (p.1, p.2.now.2)
  | .outside change => (p.1, { p.2 with disk := change p.2.disk })

/-- The journal and its host behind a list of calls. -/
def performAll (p : Journal × Host) (calls : List Call) : Journal × Host := calls.foldl perform p

/-- What is gathered along a list of calls, when `f` says what is gathered from one. -/
def gather {α : Type} (f : Journal × Host → Call → List α) (p : Journal × Host) :
    List Call → List α
  | [] => []
  | call :: calls => f p call ++ gather f (perform p call) calls

/-- The answer that comes back from a call. -/
def reply (p : Journal × Host) : Call → List Answer
  | .take => [.taken p.1.take.1]
  | .ask q => [p.1.answer q]
  | _ => [.nothing]

/-- The answers that come back, call by call. -/
def replies : Journal × Host → List Call → List Answer := gather reply

/-- The records that an answer hands out. -/
def Answer.handedOut : Answer → List Diagnostic
  | .taken ds => ds
  | _ => []

/-- All records that were taken out. -/
def taken (p : Journal × Host) (calls : List Call) : List Diagnostic :=
  (replies p calls).flatMap Answer.handedOut

/-- The diagnostic a call emits, if it does. -/
def Call.emitted? : Call → Option Diagnostic
  | .emit d => some d
  | _ => none

/-- The diagnostics emitted. -/
def emitted (calls : List Call) : List Diagnostic := calls.filterMap Call.emitted?

/-- The line that is written to the log for a diagnostic. -/
def line (d : Diagnostic) : String := d.display ++ "\n"

theorem forall₂_isLine_map (ds : List Diagnostic) : List.Forall₂ IsLine ds (ds.map line) := by
  rw [List.forall₂_map_right_iff, List.forall₂_same]
  intro d _
  exact isLine_iff.mpr rfl

/-- Why the log file would refuse a diagnostic, if there is a log file and it would. -/
def refusal? (p : Journal × Host) (d : Diagnostic) : Option Fault :=
  match p.1.log with
  | none => none
  | some l =>
    match p.2.disk.append l (line d) with
    | .ok _ => none
    | .error fault => some fault

/-- What a call emits, with why the log file refuses it, if it does. -/
def logged (p : Journal × Host) (call : Call) : List (Diagnostic × Option Fault) :=
  call.emitted?.toList.map fun d => (d, refusal? p d)

/-- The diagnostics emitted, each with why the log file refused it, if it did. -/
def writes : Journal × Host → List Call → List (Diagnostic × Option Fault) := gather logged

/-- What is told to the event stream in a call. -/
def told (p : Journal × Host) : Call → List Event
  | .emit d => .reported d :: (refusal? p d).toList.map .logWriteFailed
  | .tell e _ => [e]
  | _ => []

/-! ## One line of the log -/

/-- Writing at the end of a file changes nothing but the files. -/
theorem append_host (h : Host) (l : Disk.Location) (text : String) :
    h.append l text = (h.disk.append l text).map fun disk => { h with disk := disk } := by
  unfold Host.append
  cases h.disk.append l text <;> rfl

section Line

variable {j : Journal} {host : Host} {d : Diagnostic} {l : Disk.Location} {disk : Disk}
  {fault : Fault}

/-- Without a log file no line is written. -/
theorem writeLog_of_noLog (h : j.log = none) (host : Host) (d : Diagnostic) :
    refusal? (j, host) d = none ∧ j.writeLog host d = host := by
  constructor
  · unfold refusal?
    rw [h]
  · unfold writeLog
    rw [h]

theorem writeLog_of_ok (h : j.log = some l) (happend : host.disk.append l (line d) = .ok disk) :
    refusal? (j, host) d = none ∧ j.writeLog host d = { host with disk := disk } := by
  have hhost := append_host host l (line d)
  rw [happend] at hhost
  constructor
  · unfold refusal?
    rw [h]
    dsimp only
    rw [happend]
  · unfold writeLog
    rw [h]
    dsimp only
    rw [← line, hhost]
    rfl

theorem writeLog_of_error (h : j.log = some l)
    (happend : host.disk.append l (line d) = .error fault) :
    refusal? (j, host) d = some fault ∧ j.writeLog host d = host.tell (.logWriteFailed fault) := by
  have hhost := append_host host l (line d)
  rw [happend] at hhost
  constructor
  · unfold refusal?
    rw [h]
    dsimp only
    rw [happend]
  · unfold writeLog
    rw [h]
    dsimp only
    rw [← line, hhost]
    rfl

/-- The line is accepted, which may change the files, or refused, which is told and leaves them as
they are. -/
theorem writeLog_cases (j : Journal) (host : Host) (d : Diagnostic) :
    (refusal? (j, host) d = none ∧ ∃ disk, j.writeLog host d = { host with disk := disk }) ∨
    ∃ fault, refusal? (j, host) d = some fault ∧
      j.writeLog host d = host.tell (.logWriteFailed fault) := by
  cases hlog : j.log with
  | none =>
    obtain ⟨hrefusal, hhost⟩ := writeLog_of_noLog hlog host d
    exact Or.inl ⟨hrefusal, host.disk, hhost⟩
  | some l =>
    cases happend : host.disk.append l (line d) with
    | ok disk =>
      obtain ⟨hrefusal, hhost⟩ := writeLog_of_ok hlog happend
      exact Or.inl ⟨hrefusal, disk, hhost⟩
    | error fault => exact Or.inr ⟨fault, writeLog_of_error hlog happend⟩

end Line

/-! ## One call -/

/-- An emission is told as an event, and then goes to the log. -/
theorem host_emit (p : Journal × Host) (d : Diagnostic) :
    (perform p (.emit d)).2 = p.1.writeLog (p.2.tell (.reported d)) d := rfl

theorem disk_emit_of_refusal {p : Journal × Host} {d : Diagnostic} (h : refusal? p d ≠ none) :
    (perform p (.emit d)).2.disk = p.2.disk := by
  obtain ⟨hnone, -⟩ | ⟨fault, -, hhost⟩ := p.1.writeLog_cases (p.2.tell (.reported d)) d
  · exact absurd hnone h
  · rw [host_emit, hhost]
    rfl

section Step

variable (p : Journal × Host) (call : Call)

theorem log_perform : (perform p call).1.log = p.1.log := by
  cases call <;> rfl

/-- Records are handed out or held, whatever the call is. -/
theorem handedOut_append_records :
    (reply p call).flatMap Answer.handedOut ++ (perform p call).1.records.toList =
      p.1.records.toList ++ call.emitted?.toList := by
  cases call with
  | emit d => exact Array.toList_push
  | take => simp [reply, perform, Journal.take, Answer.handedOut, Call.emitted?]
  | ask q =>
    have hnone : Answer.handedOut (p.1.answer q) = [] := by cases q <;> rfl
    simp [reply, perform, hnone, Call.emitted?]
  | tell | askTime | outside => exact (List.append_nil _).symm

theorem events_perform :
    (perform p call).2.events.toList = p.2.events.toList ++ told p call := by
  cases call with
  | emit d =>
    show _ = p.2.events.toList ++ .reported d :: (refusal? p d).toList.map .logWriteFailed
    obtain ⟨hrefusal, disk, hhost⟩ | ⟨fault, hrefusal, hhost⟩ :=
      p.1.writeLog_cases (p.2.tell (.reported d)) d
    · have haccepted : refusal? p d = none := hrefusal
      rw [host_emit, hhost, haccepted]
      exact Array.toList_push
    · have hrefused : refusal? p d = some fault := hrefusal
      rw [host_emit, hhost, hrefused]
      simp [Host.tell]
  | tell e foreign => exact Array.toList_push
  | take | ask | askTime | outside => exact (List.append_nil _).symm

variable {p}

/-- Answers and records depend on the records there were, and on nothing else. -/
theorem reply_eq_of_records {q : Journal × Host} (h : q.1.records = p.1.records) :
    reply q call = reply p call ∧ (perform q call).1.records = (perform p call).1.records := by
  cases call with
  | emit d => exact ⟨rfl, congrArg (·.push d) h⟩
  | take => exact ⟨congrArg (fun ds : Array Diagnostic => [Answer.taken ds.toList]) h, rfl⟩
  | ask query =>
    have hanswer : q.1.answer query = p.1.answer query := by
      cases query <;> simp only [answer, size, isEmpty, errorCount, warningCount, hasErrors, h]
    exact ⟨congrArg (fun a => [a]) hanswer, h⟩
  | tell | askTime | outside => exact ⟨rfl, h⟩

end Step

/-! ## Any number of calls -/

section Run

variable (p : Journal × Host) (calls : List Call)

theorem performAll_append (more : List Call) :
    performAll p (calls ++ more) = performAll (performAll p calls) more :=
  List.foldl_append

theorem log_performAll : (performAll p calls).1.log = p.1.log := by
  induction calls generalizing p with
  | nil => rfl
  | cons call calls ih => exact (ih (perform p call)).trans (log_perform p call)

theorem taken_cons (call : Call) :
    taken p (call :: calls) =
      (reply p call).flatMap Answer.handedOut ++ taken (perform p call) calls :=
  List.flatMap_append

/-- What was taken out, and behind it what is still held, is what there was at first and behind it
what was emitted. -/
theorem taken_append_records :
    taken p calls ++ (performAll p calls).1.records.toList =
      p.1.records.toList ++ emitted calls := by
  induction calls generalizing p with
  | nil => exact (List.append_nil _).symm
  | cons call calls ih =>
    have hemitted : emitted (call :: calls) = call.emitted?.toList ++ emitted calls := by
      unfold emitted
      cases h : call.emitted? <;> simp [h]
    show taken p (call :: calls) ++ (performAll (perform p call) calls).1.records.toList = _
    rw [taken_cons, hemitted, List.append_assoc, ih, ← List.append_assoc, handedOut_append_records,
      List.append_assoc]

theorem events_performAll :
    (performAll p calls).2.events.toList = p.2.events.toList ++ gather told p calls := by
  induction calls generalizing p with
  | nil => exact (List.append_nil _).symm
  | cons call calls ih =>
    show (performAll (perform p call) calls).2.events.toList = _
    rw [ih, events_perform, gather, List.append_assoc]

/-- The events tell of what was emitted and what became of its lines. -/
theorem commentary_told : Event.Commentary (gather told p calls) (writes p calls) := by
  induction calls generalizing p with
  | nil => exact .nil
  | cons call calls ih =>
    have hrest := ih (perform p call)
    show Event.Commentary (told p call ++ gather told (perform p call) calls)
      (logged p call ++ writes (perform p call) calls)
    cases call with
    | emit d =>
      show Event.Commentary
        (.reported d :: (refusal? p d).toList.map .logWriteFailed ++ gather told _ calls)
        ((d, refusal? p d) :: writes _ calls)
      cases refusal? p d with
      | none => exact .accepted (Event.shows_reported d) hrest
      | some fault =>
        exact .refused (Event.shows_reported d) (Event.warnsOf_logWriteFailed fault) hrest
    | tell e foreign => exact .foreign foreign hrest
    | take | ask | askTime | outside => exact hrest

theorem map_fst_writes : (writes p calls).map Prod.fst = emitted calls := by
  induction calls generalizing p with
  | nil => rfl
  | cons call calls ih =>
    show (logged p call ++ writes (perform p call) calls).map Prod.fst = _
    rw [List.map_append, ih]
    cases call <;> rfl

variable {p}

/-- Answers and records come out the same on every host, with and without a log file. -/
theorem replies_eq_of_records {q : Journal × Host} (h : q.1.records = p.1.records) :
    replies q calls = replies p calls ∧
      (performAll q calls).1.records = (performAll p calls).1.records := by
  induction calls generalizing p q with
  | nil => exact ⟨rfl, h⟩
  | cons call calls ih =>
    obtain ⟨hreply, hrecords⟩ := reply_eq_of_records call h
    obtain ⟨hreplies, hlast⟩ := ih hrecords
    refine ⟨?_, hlast⟩
    show reply q call ++ replies (perform q call) calls = reply p call ++ replies (perform p call) calls
    rw [hreply, hreplies]

end Run

/-! ## The log file -/

/-- The world outside leaves what stands at the location as it is. -/
def LeftAlone (l : Disk.Location) (calls : List Call) : Prop :=
  ∀ change, Call.outside change ∈ calls → ∀ disk, Disk.SameAt l disk (change disk)

/-- The text of the log for some diagnostics. -/
def logText (ds : List Diagnostic) : String := .join (ds.map line)

section File

variable {p : Journal × Host} {call : Call} {calls : List Call} {l : Disk.Location}
  {e : Disk.Entry}

/-- What every call keeps, and what settles whether a line is refused, settles it for all lines. -/
theorem forall_mem_writes {I : Journal × Host → Prop} {refusal : Option Fault}
    (hkeep : ∀ call ∈ calls, ∀ p, I p → I (perform p call))
    (hrefusal : ∀ p d, I p → refusal? p d = refusal) (hp : I p) :
    ∀ w ∈ writes p calls, w.2 = refusal := by
  induction calls generalizing p with
  | nil => exact List.forall_mem_nil _
  | cons call calls ih =>
    obtain ⟨hcall, hcalls⟩ := List.forall_mem_cons.mp hkeep
    show ∀ w ∈ logged p call ++ writes (perform p call) calls, w.2 = refusal
    rw [List.forall_mem_append]
    refine ⟨?_, ih hcalls (hcall p hp)⟩
    intro w hw
    obtain ⟨d, -, rfl⟩ := List.mem_map.mp hw
    exact hrefusal p d hp

/-- Without a log file nothing is refused. -/
theorem writes_of_noLog (hlog : p.1.log = none) : ∀ w ∈ writes p calls, w.2 = none := by
  refine forall_mem_writes (I := fun p => p.1.log = none) ?_ ?_ hlog
  · intro call _ p hp
    rw [log_perform, hp]
  · intro p d hp
    exact (writeLog_of_noLog hp p.2 d).1

/-- Nothing but an emission touches the log file. -/
theorem sameAt_perform (halone : LeftAlone l calls) (hmem : call ∈ calls)
    (hcall : call.emitted? = none) :
    Disk.SameAt l p.2.disk (perform p call).2.disk := by
  cases call with
  | emit d => cases hcall
  | outside change => exact halone change hmem p.2.disk
  | take | ask | tell | askTime => exact .refl l _

theorem eq_emit_of_emitted? {d : Diagnostic} (h : call.emitted? = some d) : call = .emit d := by
  cases call with
  | emit d' =>
    obtain rfl := Option.some.inj h
    rfl
  | take | ask | tell | askTime | outside => cases h

/-- What refuses every line refuses them all for the same reason. -/
theorem writes_of_refuses {fault : Fault} (hlog : p.1.log = some l) (halone : LeftAlone l calls)
    (he : p.2.disk.Holds l e) (hrefuses : ∀ bytes, e.append bytes = .error fault) :
    ∀ w ∈ writes p calls, w.2 = some fault := by
  have hrefusal : ∀ (p : Journal × Host) (d : Diagnostic),
      p.1.log = some l ∧ p.2.disk.Holds l e → refusal? p d = some fault := by
    rintro p d ⟨hlog, he⟩
    exact (writeLog_of_error hlog (Disk.append_of_error he (hrefuses _))).1
  refine forall_mem_writes (I := fun p => p.1.log = some l ∧ p.2.disk.Holds l e) ?_
    hrefusal ⟨hlog, he⟩
  rintro call hcall p ⟨hlog, he⟩
  refine ⟨(log_perform p call).trans hlog, ?_⟩
  cases hemitted : call.emitted? with
  | none => exact (sameAt_perform halone hcall hemitted).holds he
  | some d =>
    obtain rfl := eq_emit_of_emitted? hemitted
    rw [disk_emit_of_refusal]
    · exact he
    · rw [hrefusal p d ⟨hlog, he⟩]
      exact Option.some_ne_none fault

/-- As long as every line is refused, the log file stays what it is. -/
theorem sameAt_of_refused (halone : LeftAlone l calls)
    (hrefused : ∀ w ∈ writes p calls, w.2 ≠ none) :
    Disk.SameAt l p.2.disk (performAll p calls).2.disk := by
  induction calls generalizing p with
  | nil => exact .refl l _
  | cons call calls ih =>
    have hsplit : ∀ w ∈ logged p call ++ writes (perform p call) calls, w.2 ≠ none := hrefused
    rw [List.forall_mem_append] at hsplit
    obtain ⟨hnow, hlater⟩ := hsplit
    have hrest := ih (fun change hmem => halone change (List.mem_cons_of_mem _ hmem)) hlater
    refine Disk.SameAt.trans ?_ hrest
    cases hemitted : call.emitted? with
    | none => exact sameAt_perform halone List.mem_cons_self hemitted
    | some d =>
      obtain rfl := eq_emit_of_emitted? hemitted
      have hd : refusal? p d ≠ none := hnow (d, refusal? p d) List.mem_cons_self
      rw [disk_emit_of_refusal hd]
      exact .refl l _

/-- A regular file takes every line, and holds what it held before and behind it the lines of what
was emitted, in order. -/
theorem log_of_file {before : ByteArray} (hlog : p.1.log = some l) (halone : LeftAlone l calls)
    (hfile : p.2.disk.Holds l (.file before)) :
    (∀ w ∈ writes p calls, w.2 = none) ∧
      (performAll p calls).2.disk.Holds l
        (.file (before ++ (logText (emitted calls)).toUTF8)) := by
  induction calls generalizing p before with
  | nil =>
    have hempty : before ++ "".toUTF8 = before := ByteArray.append_empty
    refine ⟨List.forall_mem_nil _, ?_⟩
    show p.2.disk.Holds l (.file (before ++ "".toUTF8))
    rw [hempty]
    exact hfile
  | cons call calls ih =>
    have halone' : LeftAlone l calls := fun change hmem => halone change (List.mem_cons_of_mem _ hmem)
    have hlog' : (perform p call).1.log = some l := (log_perform p call).trans hlog
    cases hemitted : call.emitted? with
    | none =>
      have hentry := (sameAt_perform halone List.mem_cons_self hemitted).holds hfile
      have hwrites : writes p (call :: calls) = writes (perform p call) calls := by
        show logged p call ++ writes (perform p call) calls = _
        rw [logged, hemitted]
        rfl
      have hsame : emitted (call :: calls) = emitted calls := List.filterMap_cons_none hemitted
      rw [hwrites, hsame]
      exact ih hlog' halone' hentry
    | some d =>
      obtain rfl := eq_emit_of_emitted? hemitted
      have happend : (p.2.tell (.reported d)).disk.append l (line d) = .ok _ :=
        Disk.append_of_ok hfile rfl
      obtain ⟨hrefusal, hhost⟩ := writeLog_of_ok hlog happend
      have hentry : (perform p (.emit d)).2.disk.Holds l (.file (before ++ (line d).toUTF8)) := by
        rw [host_emit, hhost]
        exact Disk.holds_put _ _ _
      obtain ⟨hlater, hlast⟩ := ih hlog' halone' hentry
      have htext : logText (emitted (.emit d :: calls)) = line d ++ logText (emitted calls) :=
        String.join_cons
      refine ⟨?_, ?_⟩
      · show ∀ w ∈ (d, refusal? p d) :: writes (perform p (.emit d)) calls, w.2 = none
        exact List.forall_mem_cons.mpr ⟨hrefusal, hlater⟩
      · rw [ByteArray.append_assoc] at hlast
        have hbytes : (line d ++ logText (emitted calls)).toUTF8 =
            (line d).toUTF8 ++ (logText (emitted calls)).toUTF8 := String.toByteArray_append
        rw [htext, hbytes]
        exact hlast

end File

/-! ## The three traces agree -/

/-- What the calls have made of the journal and the host that were `p` and are now `p'`. -/
structure Agree (p : Journal × Host) (calls : List Call) (p' : Journal × Host) : Prop where
  /-- The records, taken out or still held, are what was emitted. -/
  memory : taken p calls ++ p'.1.records.toList = p.1.records.toList ++ emitted calls
  /-- Answers and records would be the same on any other host, with another log file or none. -/
  memory_alone (q : Journal × Host) : q.1.records = p.1.records →
    replies q calls = replies p calls ∧ (performAll q calls).1.records = p'.1.records
  log_same : p'.1.log = p.1.log
  /-- What was emitted is what went to the log file, if there is one. -/
  emitted_eq : (writes p calls).map Prod.fst = emitted calls
  /-- The new events show what was emitted, one by one, and tell of each line that was refused right
  behind it. -/
  events : ∃ new, p'.2.events.toList = p.2.events.toList ++ new ∧
    Event.Commentary new (writes p calls) ∧
    List.Forall₂ Event.Shows (new.filter (·.target = "solara::diagnostic")) (emitted calls)
  /-- Without a log file nothing is refused. -/
  unlogged : p.1.log = none → ∀ w ∈ writes p calls, w.2 = none
  /-- A regular file takes all lines, and they stand behind what it held before, one for each
  diagnostic, in order. -/
  accepted {l : Disk.Location} {before : ByteArray} : p.1.log = some l → LeftAlone l calls →
    p.2.disk.Holds l (.file before) →
    (∀ w ∈ writes p calls, w.2 = none) ∧
      ∃ lines, List.Forall₂ IsLine (emitted calls) lines ∧
        p'.2.disk.Holds l (.file (before ++ (String.join lines).toUTF8))
  /-- What takes no line at all refuses each. -/
  refuses {l : Disk.Location} {e : Disk.Entry} {fault : Fault} : p.1.log = some l →
    LeftAlone l calls → p.2.disk.Holds l e → (∀ bytes, e.append bytes = .error fault) →
    ∀ w ∈ writes p calls, w.2 = some fault
  /-- When all lines are refused, the log file stays what it is. -/
  refused {l : Disk.Location} : LeftAlone l calls → (∀ w ∈ writes p calls, w.2 ≠ none) →
    Disk.SameAt l p.2.disk p'.2.disk

theorem agree_performAll (p : Journal × Host) (calls : List Call) :
    Agree p calls (performAll p calls) := by
  have hcommentary := commentary_told p calls
  have hshows := hcommentary.forall₂_shows
  rw [map_fst_writes] at hshows
  constructor
  case memory => exact taken_append_records p calls
  case memory_alone =>
    intro q hq
    exact replies_eq_of_records calls hq
  case log_same => exact log_performAll p calls
  case emitted_eq => exact map_fst_writes p calls
  case events => exact ⟨_, events_performAll p calls, hcommentary, hshows⟩
  case unlogged => exact writes_of_noLog
  case accepted =>
    intro l before hlog halone hfile
    obtain ⟨hwrites, htext⟩ := log_of_file hlog halone hfile
    exact ⟨hwrites, _, forall₂_isLine_map (emitted calls), htext⟩
  case refuses => exact writes_of_refuses
  case refused => exact sameAt_of_refused

end Diagnostic.Journal

end FrontEnd
