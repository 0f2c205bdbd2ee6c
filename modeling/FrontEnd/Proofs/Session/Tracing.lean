/-
# FrontEnd.Proofs.Session.Tracing — the traces of interning mirror the string table.

When the settings ask for it, a text that is new to the string table leaves an info in the journal.
Nothing else does, so the infos emitted in a session are the entries of the table, one for one and in
the order of their handles; taking records out of the journal does not take them out of this account.
When the settings do not ask for it there are no infos.  Whatever else is emitted is an error
(`infos_mirror_strings`).

The table and the infos grow together: what a move adds to the traces that are due it adds to the
records (`Compilation.Traced`).
-/
import FrontEnd.Proofs.Session.Course

namespace FrontEnd

/-! ## Infos -/

namespace Diagnostic

/-- The infos among some records, without the times. -/
def infos (ds : List Diagnostic) : List Content :=
  (ds.filter fun d => d.level = .info).map content

theorem infos_append (ds es : List Diagnostic) : infos (ds ++ es) = infos ds ++ infos es := by
  rw [infos, List.filter_append, List.map_append]
  rfl

theorem infos_of_forall {ds : List Diagnostic} (h : ∀ d ∈ ds, d.level = .info) :
    infos ds = ds.map content := by
  rw [infos, List.filter_eq_self.mpr]
  simpa using h

end Diagnostic

open Diagnostic (infos infos_append infos_of_forall)

/-! ## Compilations -/

namespace Compilation

/-- The trace of an entry of the string table. -/
def entryTrace (entry : Symbol × String) : Diagnostic.Content :=
  ⟨.info, "[" ++ toString entry.1.index ++ "]: " ++ entry.2, none, none⟩

/-- The traces that are due: one for each entry of the string table in handle order, if the settings
ask for traces. -/
def mirror (c : Compilation) : List Diagnostic.Content :=
  if c.settings.traceInterning then c.strings.entries.map entryTrace else []

/-- The records `new` hold the traces of what has come into the string table from `c` to `c'`, and
no infos besides; the others are errors. -/
structure Traced (c c' : Compilation) (new : List Diagnostic) : Prop where
  settings_eq : c'.settings = c.settings
  mirror_eq : c'.mirror = c.mirror ++ infos new
  level : ∀ d ∈ new, d.level = .info ∨ d.level = .error

theorem Traced.of_eq {c c' : Compilation} (hsettings : c'.settings = c.settings)
    (hstrings : c'.strings = c.strings) : c.Traced c' [] := by
  refine ⟨hsettings, ?_, List.forall_mem_nil _⟩
  rw [mirror, mirror, hsettings, hstrings]
  exact (List.append_nil _).symm

theorem Traced.trans {c c' c'' : Compilation} {new more : List Diagnostic} (h : c.Traced c' new)
    (h' : c'.Traced c'' more) : c.Traced c'' (new ++ more) := by
  refine ⟨h'.settings_eq.trans h.settings_eq, ?_, List.forall_mem_append.mpr ⟨h.level, h'.level⟩⟩
  rw [h'.mirror_eq, h.mirror_eq, infos_append, List.append_assoc]

theorem settings_intern (c : Compilation) (text : String) :
    (c.intern text).2.settings = c.settings := by
  rcases h : c.strings.internFull text with ⟨s, isNew, strings⟩
  simp only [intern, h]
  split <;> rfl

/-- What is traced of interning a text is the trace of the entry that comes into the table. -/
theorem mirror_intern (c : Compilation) (text : String) :
    (c.intern text).2.mirror = c.mirror ++ c.traces text := by
  have hentries := c.strings.entries_internFull text
  rw [mirror, settings_intern, Scanner.strings_intern, mirror, traces, Symbol.Table.intern]
  rcases h : c.strings.internFull text with ⟨s, isNew, strings⟩
  rw [h] at hentries
  dsimp only at hentries ⊢
  rw [hentries]
  cases c.settings.traceInterning with
  | false => simp
  | true =>
    cases isNew with
    | false => simp
    | true => simp [entryTrace, internTrace]

theorem exists_traced_intern (c : Compilation) (text : String) :
    ∃ new, (c.intern text).2.records = c.records ++ new ∧ c.Traced (c.intern text).2 new := by
  obtain ⟨new, hnew, htraces⟩ := c.exists_records_intern text
  have hinfo : ∀ d ∈ new, d.level = .info := by
    intro d hd
    exact level_of_mem_traces d.content (htraces ▸ List.mem_map_of_mem hd)
  refine ⟨new, hnew, c.settings_intern text, ?_, ?_⟩
  · rw [infos_of_forall hinfo, htraces, mirror_intern]
  · intro d hd
    exact Or.inl (hinfo d hd)

theorem exists_traced_report (c : Compilation) (message : String) (code : Option Diagnostic.Code)
    (span : Option Span) :
    ∃ new, (c.report .error message code span).records = c.records ++ new ∧
      c.Traced (c.report .error message code span) new := by
  obtain ⟨d, hcontent, hd⟩ := Scanner.journal_report c ⟨.error, message, code, span⟩
  have hlevel : d.level = .error := congrArg Diagnostic.Content.level hcontent
  refine ⟨[d], hd, rfl, ?_, List.forall_mem_singleton.mpr (Or.inr hlevel)⟩
  have hnone : infos [d] = [] := by simp [infos, hlevel]
  rw [hnone]
  exact (List.append_nil _).symm

/-- Whatever work is done, its records hold the traces of what it brings into the table. -/
theorem Works.exists_traced {c c' : Compilation} {n : Nat} (h : c.Works n c') :
    ∃ new, c'.records = c.records ++ new ∧ c.Traced c' new := by
  have hstep {c₁ c₂ : Compilation} (h₁ : ∃ new, c₁.records = c.records ++ new ∧ c.Traced c₁ new)
      (h₂ : ∃ new, c₂.records = c₁.records ++ new ∧ c₁.Traced c₂ new) :
      ∃ new, c₂.records = c.records ++ new ∧ c.Traced c₂ new := by
    obtain ⟨new, hnew, htraced⟩ := h₁
    obtain ⟨more, hmore, htraced'⟩ := h₂
    exact ⟨new ++ more, by rw [hmore, hnew, List.append_assoc], htraced.trans htraced'⟩
  induction h with
  | refl => exact ⟨[], (List.append_nil _).symm, .of_eq rfl rfl⟩
  | tell _ _ ih => exact hstep ih ⟨[], (List.append_nil _).symm, .of_eq rfl rfl⟩
  | intern text _ ih => exact hstep ih (exists_traced_intern _ text)
  | report message code span _ ih => exact hstep ih (exists_traced_report _ message code span)

end Compilation

namespace Session

/-- A move adds to the records, those handed out included, what it adds to the traces due, and
besides only errors. -/
theorem exists_traced_make {session session' : Session} {m : Move} {reply : Reply}
    (h : session.make m = some (reply, session')) :
    ∃ new, reply.taken ++ session'.compilation.records = session.compilation.records ++ new ∧
      session.compilation.Traced session'.compilation new := by
  cases m with
  | step step =>
    rcases perform_cases h with ⟨c, rfl, rfl, rfl, rfl⟩ | ⟨⟨n, hworks⟩, htaken⟩
    · exact ⟨[], rfl, .of_eq rfl rfl⟩
    · obtain ⟨new, hnew, htraced⟩ := hworks.exists_traced
      rw [htaken]
      exact ⟨new, hnew, htraced⟩
  | take =>
    cases h
    rw [compilation_update]
    exact ⟨[], rfl, .of_eq rfl rfl⟩
  | outside host =>
    cases h
    rw [compilation_update]
    exact ⟨[], (List.append_nil _).symm, .of_eq rfl rfl⟩

/-- In a course of moves, the records, handed out or not, hold the traces of the table as it is. -/
theorem Course.traced {c : Compilation} {moves : List Move} {session : Session} {ledger : Ledger}
    (hc : c.IsNew) (h : Course c moves session ledger) :
    c.Traced session.compilation (ledger.taken ++ session.compilation.records) := by
  induction h with
  | start =>
    have hnone : Ledger.blank.taken ++ (idle c).compilation.records = [] := hc.records_eq
    rw [hnone]
    exact .of_eq rfl rfl
  | @move moves session session' ledger m reply _ hmake ih =>
    obtain ⟨new, hnew, htraced⟩ := exists_traced_make hmake
    rw [Ledger.taken_enter hnew]
    exact ih.trans htraced

/-- Of the records emitted in a course of moves, those taken out and those still held, the infos are
the traces of the string table's entries, one for each in handle order, if the settings ask for
traces; if not, there are none.  All others are errors. -/
theorem infos_mirror_strings {c : Compilation} {moves : List Move} {session : Session}
    {ledger : Ledger} (hc : c.IsNew) (h : Course c moves session ledger) :
    let emitted := ledger.taken ++ session.compilation.records
    infos emitted = (if c.settings.traceInterning then
        session.compilation.strings.entries.map Compilation.entryTrace else []) ∧
      ∀ d ∈ emitted, d.level = .info ∨ d.level = .error := by
  obtain ⟨hsettings, hmirror, hlevel⟩ := h.traced hc
  refine ⟨?_, hlevel⟩
  have hempty : c.mirror = [] := by
    rw [Compilation.mirror, hc.strings_eq]
    exact ite_self _
  rw [hempty, List.nil_append, Compilation.mirror, hsettings] at hmirror
  exact hmirror.symm

/-- One word comes up again, one string literal is malformed, and the first two records are taken out
while the text is being scanned. -/
theorem infos_mirror_strings_taken :
    let settings : Settings := ⟨none, none, none, true⟩
    let c := Compilation.withoutLog settings (.ofDisk .fresh fun _ => 0)
    let moves : List Move :=
      [.step (.intern "a"), .step (.openText "\"b\" a \"\\q\" c"), .step .next, .take,
        .step .collect, .step .close]
    ∃ session ledger, c.IsNew ∧ Course c moves session ledger ∧ ledger.taken.length = 2 ∧
      session.compilation.strings.entries = [(⟨0⟩, "a"), (⟨1⟩, "b"), (⟨2⟩, "c")] ∧
      infos (ledger.taken ++ session.compilation.records) =
        [⟨.info, "[0]: a", none, none⟩, ⟨.info, "[1]: b", none, none⟩,
          ⟨.info, "[2]: c", none, none⟩] ∧
      session.compilation.hasErrors = true := by
  intro settings c moves
  have hcourse := Course.start (c := c)
    |>.move (m := .step (.intern "a")) rfl
    |>.move (m := .step (.openText "\"b\" a \"\\q\" c")) rfl
    |>.move (m := .step .next) rfl
    |>.move (m := .take) rfl
    |>.move (m := .step .collect) rfl
    |>.move (m := .step .close) rfl
  have hnew : c.IsNew := .withoutLog settings _
  obtain ⟨hinfos, -⟩ := infos_mirror_strings hnew hcourse
  exact ⟨_, _, hnew, hcourse, by decide +kernel, by decide +kernel,
    hinfos.trans (by decide +kernel), by decide +kernel⟩

end Session

end FrontEnd
