/-
# FrontEnd.Proofs.Session.Sinks — what is emitted in a session, and where it can be found.

Scanning, reading a header, loading a file and interning all work on the journal by calls of it, with
other business on the host in between (`Compilation.Works.exists_makes`).  So each step of a session
comes to some calls (`exists_comesTo`), and so do all dealings with a compilation, in which steps
take turns with calls that somebody makes of the journal directly.  What is known of any number of
calls is then known of the dealings (`sinks_agree`).
-/
import FrontEnd.Proofs.Session.Course

namespace FrontEnd

open Diagnostic.Journal (Call performAll taken LeftAlone)

namespace Diagnostic.Journal

/-- The calls that work consists of: nothing is taken out, and the world outside stands still. -/
def Call.IsWork : Call → Prop
  | .emit _ | .tell _ _ | .askTime => True
  | _ => False

theorem taken_of_isWork {p : Journal × Host} {calls : List Call} (h : ∀ call ∈ calls, call.IsWork) :
    taken p calls = [] := by
  induction calls generalizing p with
  | nil => rfl
  | cons call calls ih =>
    obtain ⟨hcall, hcalls⟩ := List.forall_mem_cons.mp h
    rw [Diagnostic.Journal.taken_cons, ih hcalls]
    cases call with
    | emit | tell | askTime => rfl
    | take | ask | outside => exact hcall.elim

theorem leftAlone_of_isWork {calls : List Call} (h : ∀ call ∈ calls, call.IsWork)
    (l : Disk.Location) : LeftAlone l calls := by
  intro change hmem
  exact (h _ hmem).elim

end Diagnostic.Journal

/-! ## Compilations -/

namespace Compilation

/-- A compilation that has just been made on a host. -/
inductive OpenedOn (host : Host) : Compilation → Prop
  | withoutLog (settings : Settings) : OpenedOn host (.withoutLog settings host)
  | ofSettings {settings : Settings} {c : Compilation} :
      ofSettings settings host = .ok c → OpenedOn host c

theorem OpenedOn.isNew {host : Host} {c : Compilation} (h : c.OpenedOn host) : c.IsNew := by
  cases h with
  | withoutLog settings => exact .withoutLog settings host
  | ofSettings hopen => exact .ofSettings hopen

/-- A log file that can be opened is kept. -/
theorem OpenedOn.of_openAtEnd {host : Host} {settings : Settings} {path : String}
    {l : Disk.Location} {disk : Disk} (hlog : settings.logFile = some path)
    (hopen : host.disk.openAtEnd path = .ok (l, disk)) :
    OpenedOn host ⟨settings, .empty, ⟨#[], some l⟩, { host with disk := disk }⟩ := by
  have hmade : Compilation.ofSettings settings host =
      .ok ⟨settings, .empty, ⟨#[], some l⟩, { host with disk := disk }⟩ := by
    unfold Compilation.ofSettings Diagnostic.Journal.withLog
    rw [hlog]
    dsimp only
    rw [hopen]
  exact .ofSettings hmade

/-- Making a compilation tells no event, and leaves the log file as it is, or makes an empty one. -/
theorem OpenedOn.host_eq {host : Host} {c : Compilation} (h : c.OpenedOn host) :
    c.host.events = host.events ∧ ∀ l, c.journal.log = some l →
      c.host.disk.Holds l (host.disk.opened l) := by
  cases h with
  | withoutLog settings => exact ⟨rfl, by rintro l ⟨⟩⟩
  | @ofSettings settings c hopen =>
    rcases ofSettings_cases hopen with rfl | ⟨path, l, disk, -, hdisk, rfl⟩
    · exact ⟨rfl, by rintro l ⟨⟩⟩
    · refine ⟨rfl, ?_⟩
      rintro l ⟨⟩
      exact Disk.holds_opened hdisk

/-- The journal with the host it works on. -/
def sinks (c : Compilation) : Diagnostic.Journal × Host := (c.journal, c.host)

/-- The compilation behind a call of its journal. -/
def perform (c : Compilation) (call : Call) : Compilation :=
  { c with
    journal := (Diagnostic.Journal.perform c.sinks call).1
    host := (Diagnostic.Journal.perform c.sinks call).2 }

/-- The calls make of the journal and the host of `c` what they are in `c'`. -/
def Makes (c : Compilation) (calls : List Call) (c' : Compilation) : Prop :=
  c'.sinks = performAll c.sinks calls

theorem Makes.trans {c c' c'' : Compilation} {calls more : List Call} (h : c.Makes calls c')
    (h' : c'.Makes more c'') : c.Makes (calls ++ more) c'' := by
  rw [Makes, Diagnostic.Journal.performAll_append, ← h]
  exact h'

/-- A report asks for the time and then emits. -/
theorem makes_report (c : Compilation) (level : Diagnostic.Level) (message : String)
    (code : Option Diagnostic.Code) (span : Option Span) :
    c.Makes [.askTime, .emit ⟨level, message, code, span, c.host.now.1⟩]
      (c.report level message code span) := rfl

/-- A new text is reported if the settings ask for it, and nothing else comes of interning. -/
theorem exists_makes_intern (c : Compilation) (text : String) :
    ∃ calls, (∀ call ∈ calls, call.IsWork) ∧ c.Makes calls (c.intern text).2 := by
  rcases h : c.strings.internFull text with ⟨symbol, isNew, strings⟩
  simp only [intern, h]
  split
  · refine ⟨_, ?_, makes_report { c with strings := strings } _ _ _ _⟩
    exact List.forall_mem_cons.mpr ⟨trivial, List.forall_mem_singleton.mpr trivial⟩
  · exact ⟨[], List.forall_mem_nil _, rfl⟩

/-- Work comes to calls of the journal. -/
theorem Works.exists_makes {c c' : Compilation} {n : Nat} (h : c.Works n c') :
    ∃ calls, (∀ call ∈ calls, call.IsWork) ∧ c.Makes calls c' := by
  induction h with
  | refl => exact ⟨[], List.forall_mem_nil _, rfl⟩
  | @tell n c' e he _ ih =>
    obtain ⟨calls, hwork, hmakes⟩ := ih
    have htell : c'.Makes [.tell e he] (c'.tell e) := rfl
    refine ⟨_, ?_, hmakes.trans htell⟩
    exact List.forall_mem_append.mpr ⟨hwork, List.forall_mem_singleton.mpr trivial⟩
  | @intern n c' text _ ih =>
    obtain ⟨calls, hwork, hmakes⟩ := ih
    obtain ⟨more, hmore, hintern⟩ := c'.exists_makes_intern text
    exact ⟨_, List.forall_mem_append.mpr ⟨hwork, hmore⟩, hmakes.trans hintern⟩
  | @report n c' message code span _ ih =>
    obtain ⟨calls, hwork, hmakes⟩ := ih
    refine ⟨_, ?_, hmakes.trans (c'.makes_report .error message code span)⟩
    rw [List.forall_mem_append]
    exact ⟨hwork, List.forall_mem_cons.mpr ⟨trivial, List.forall_mem_singleton.mpr trivial⟩⟩

end Compilation

/-! ## Sessions -/

namespace Session

/-- The step comes to these calls of the journal: they make of journal and host what the step makes
of them, and hand out the records that the reply hands out. -/
structure ComesTo (session : Session) (step : Step) (reply : Reply) (session' : Session)
    (calls : List Call) : Prop where
  perform_eq : session.perform step = some (reply, session')
  makes : session.compilation.Makes calls session'.compilation
  taken_eq : taken session.compilation.sinks calls = reply.taken

section Step

variable {session session' : Session} {step : Step} {reply : Reply}

/-- Whatever the step, it comes to calls of the journal that leave the log file alone. -/
theorem exists_comesTo (h : session.perform step = some (reply, session')) :
    ∃ calls, session.ComesTo step reply session' calls ∧ ∀ l, LeftAlone l calls := by
  rcases perform_cases h with ⟨c, rfl, rfl, rfl, rfl⟩ | ⟨⟨n, hworks⟩, htaken⟩
  · refine ⟨[.take], ⟨h, rfl, ?_⟩, ?_⟩
    · exact List.append_nil _
    · intro l change hmem
      simp at hmem
  · obtain ⟨calls, hwork, hmakes⟩ := hworks.exists_makes
    refine ⟨calls, ⟨h, hmakes, ?_⟩, Diagnostic.Journal.leftAlone_of_isWork hwork⟩
    rw [htaken, Diagnostic.Journal.taken_of_isWork hwork]

end Step

/-- Dealings with a compilation: the calls of its journal that have been made, and the session that
they have led to.  Steps of the session take turns with calls made of the journal directly. -/
inductive Dealings (c : Compilation) : List Call → Session → Prop
  | start : Dealings c [] (.idle c)
  | step {calls more : List Call} {session session' : Session} {step : Step} {reply : Reply} :
      Dealings c calls session → session.ComesTo step reply session' more →
      Dealings c (calls ++ more) session'
  | call {calls : List Call} {session : Session} (call : Call) :
      Dealings c calls session → Dealings c (calls ++ [call]) (session.update (·.perform call))

theorem Dealings.makes {c : Compilation} {calls : List Call} {session : Session}
    (h : Dealings c calls session) : c.Makes calls session.compilation := by
  induction h with
  | start => rfl
  | step _ hcomes ih => exact ih.trans hcomes.makes
  | @call calls session call _ ih =>
    refine ih.trans ?_
    rw [compilation_update]
    rfl

/-- In all dealings with a new compilation, the records, the events and the log file agree on what
was emitted.  Whatever step fits, the dealings go on with it.  Each starts from what there was when
the compilation was made: no records, the events so far, and the text of the log file. -/
theorem sinks_agree {host : Host} {c : Compilation} {calls : List Call} {session : Session}
    (hc : c.OpenedOn host) (h : Dealings c calls session) :
    c.records = [] ∧ c.host.events = host.events ∧
      (∀ l, c.journal.log = some l → c.host.disk.Holds l (host.disk.opened l)) ∧
      Diagnostic.Journal.Agree c.sinks calls session.compilation.sinks ∧
      ∀ step reply session', session.perform step = some (reply, session') →
        ∃ more, session.ComesTo step reply session' more ∧ (∀ l, LeftAlone l more) ∧
          Dealings c (calls ++ more) session' := by
  obtain ⟨hevents, hlog⟩ := hc.host_eq
  refine ⟨hc.isNew.records_eq, hevents, hlog, ?_, ?_⟩
  · rw [h.makes]
    exact Diagnostic.Journal.agree_performAll c.sinks calls
  · intro step reply session' hperform
    obtain ⟨more, hcomes, halone⟩ := exists_comesTo hperform
    exact ⟨more, hcomes, halone, h.step hcomes⟩

/-- Two diagnostics, the first of which is taken out.  One log file has text in it from before, the
other is a device that has no room. -/
theorem sinks_agree_two_logs :
    let disk : Disk :=
      { Disk.fresh.put ["dev", "log"] (.file "old\n".toUTF8) with here := ["dev"] }
    let host : Host := .ofDisk disk fun _ => 0
    let c (name : String) : Compilation :=
      ⟨⟨none, none, some name, false⟩, .empty, ⟨#[], some ["dev", name]⟩, host⟩
    let d : Diagnostic := ⟨.critical, "lost", some .sourceNotFound, some ⟨4, 6, 0, 4⟩, 951868799⟩
    let d' : Diagnostic := ⟨.debug, "found", none, none, 0⟩
    let calls : List Call := [.emit d, .take, .emit d']
    let shown (session : Session) : List (String × EventLevel × List (String × Event.Field)) :=
      session.compilation.host.events.toList.map fun e => (e.target, e.level, e.fields)
    ∃ session session' : Session,
      ((c "log").OpenedOn host ∧ Dealings (c "log") calls session ∧
        (c "full").OpenedOn host ∧ Dealings (c "full") calls session') ∧
      session.compilation.records = [d'] ∧ session'.compilation.records = [d'] ∧
      session.compilation.host.disk.Holds ["dev", "log"] (.file ("old\n" ++
        "[2000-02-29 23:59:59] CRITICAL: lost\n" ++
        "[1970-01-01 00:00:00] DEBUG: found\n").toUTF8) ∧
      shown session =
        [("solara::diagnostic", .error,
          [("message", .text "lost"), ("code", .text "E0001"), ("span", .text "1:5")]),
        ("solara::diagnostic", .debug, [("message", .text "found")])] ∧
      session'.compilation.host.disk.Holds ["dev", "full"] .fullDevice ∧
      Event.Commentary session'.compilation.host.events.toList
        [(d, some .noSpaceLeft), (d', some .noSpaceLeft)] ∧
      (shown session').map (·.2.1) = [.error, .warn, .debug, .warn] := by
  intro disk host c d d' calls shown
  have hlog : (c "log").OpenedOn host := by
    refine .of_openAtEnd rfl ?_
    have hname : "log".splitOn "/" = ["log"] := by
      unfold String.splitOn
      rw [if_neg (by decide)]
      iterate 4 unfold String.splitOnAux
      rfl
    have hsplit : disk.split "log" = .ok (["dev"], ["log"]) :=
      Disk.split_of_name hname (by decide) (by simp) (by decide +kernel)
    show disk.openAtEnd "log" = _
    unfold Disk.openAtEnd
    rw [hsplit]
    rfl
  have hfull : (c "full").OpenedOn host := by
    refine .of_openAtEnd rfl ?_
    have hname : "full".splitOn "/" = ["full"] := by
      unfold String.splitOn
      rw [if_neg (by decide)]
      iterate 5 unfold String.splitOnAux
      rfl
    have hsplit : disk.split "full" = .ok (["dev"], ["full"]) :=
      Disk.split_of_name hname (by decide) (by simp) (by decide +kernel)
    show disk.openAtEnd "full" = _
    unfold Disk.openAtEnd
    rw [hsplit]
    rfl
  have hdealings (name : String) : ∃ session, Dealings (c name) calls session :=
    ⟨_, ((Dealings.start.call (.emit d)).call .take).call (.emit d')⟩
  have hwrites : Diagnostic.Journal.writes (c "full").sinks calls =
    [(d, some .noSpaceLeft), (d', some .noSpaceLeft)] := rfl
  have halone (l : Disk.Location) : LeftAlone l calls := by
    intro change hmem
    simp [calls] at hmem
  have hhost {name : String} {session : Session} (h : Dealings (c name) calls session) :
      session.compilation.host = (performAll (c name).sinks calls).2 :=
    congrArg Prod.snd h.makes
  have hrecords {name : String} {session : Session}
      (h : Diagnostic.Journal.Agree (c name).sinks calls session.compilation.sinks) :
      session.compilation.records = [d'] := by
    have htaken : taken (c name).sinks calls = [d] := rfl
    have hmemory := h.memory
    rw [htaken] at hmemory
    exact (List.cons.inj hmemory).2
  obtain ⟨session, hsession⟩ := hdealings "log"
  obtain ⟨session', hsession'⟩ := hdealings "full"
  obtain ⟨-, -, -, hagree, -⟩ := sinks_agree hlog hsession
  obtain ⟨-, -, -, hagree', -⟩ := sinks_agree hfull hsession'
  refine ⟨session, session', ⟨hlog, hsession, hfull, hsession'⟩, hrecords hagree, hrecords hagree',
    ?_, ?_, ?_, ?_, ?_⟩
  · obtain ⟨-, lines, hlines, hholds⟩ := hagree.accepted rfl (halone _) rfl
    obtain ⟨line, _, hline, hrest, rfl⟩ := List.forall₂_cons_left_iff.mp hlines
    obtain ⟨line', _, hline', hnil, rfl⟩ := List.forall₂_cons_left_iff.mp hrest
    obtain rfl := List.forall₂_nil_left_iff.mp hnil
    have htext : line = "[2000-02-29 23:59:59] CRITICAL: lost\n" :=
      (Diagnostic.isLine_iff.mp hline).trans (by decide +kernel)
    have htext' : line' = "[1970-01-01 00:00:00] DEBUG: found\n" :=
      (Diagnostic.isLine_iff.mp hline').trans (by decide +kernel)
    rw [htext, htext'] at hholds
    exact hholds
  · show List.map _ session.compilation.host.events.toList = _
    rw [hhost hsession]
    decide +kernel
  · refine (hagree'.refused (halone _) ?_).holds rfl
    rw [hwrites]
    simp
  · obtain ⟨new, hnew, hcommentary, -⟩ := hagree'.events
    rw [← hwrites]
    exact hnew ▸ hcommentary
  · show List.map _ (List.map _ session'.compilation.host.events.toList) = _
    rw [hhost hsession']
    decide +kernel

end Session

end FrontEnd
