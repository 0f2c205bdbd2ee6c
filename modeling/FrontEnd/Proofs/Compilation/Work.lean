/-
# FrontEnd.Proofs.Compilation.Work — what the phases do to a compilation.

Scanner and header reader touch a compilation in three ways only: they speak to the event stream
about matters of their own, they intern a text, and they report an error.  `Works` is any number of
these one after the other, with a count of the errors; what it does to the journal is told by
`Works.exists_records`.

Each error is also counted by the phase that reports it.  So the work a phase does and what its
count has grown by go together (`Scanner.Accounts`, `Header.Reader.Accounts`), and this holds of
every operation of the phase because it holds of the steps the operation is made of.
-/
import FrontEnd.Header.Reader
import FrontEnd.Proofs.Diagnostic.Call
import FrontEnd.Proofs.Scanner.Scan

namespace FrontEnd

namespace Compilation

/-- The records in the journal. -/
def records (c : Compilation) : List Diagnostic := c.journal.records.toList

theorem hasErrors_iff (c : Compilation) :
    c.hasErrors = true ↔ 0 < c.records.countP Diagnostic.isError := by
  rw [hasErrors, Diagnostic.Journal.hasErrors, Array.any_eq_true', List.countP_pos_iff]
  simp only [records, Array.mem_toList_iff]

/-- The later compilation comes from the earlier one by speaking to the event stream, interning
texts, and reporting errors, `n` of them. -/
inductive Works (c : Compilation) : Nat → Compilation → Prop
  | refl : Works c 0 c
  | tell {n : Nat} {c' : Compilation} {e : Event} :
      e.IsForeign → Works c n c' → Works c n (c'.tell e)
  | intern {n : Nat} {c' : Compilation} (text : String) :
      Works c n c' → Works c n (c'.intern text).2
  | report {n : Nat} {c' : Compilation} (message : String) (code : Option Diagnostic.Code)
      (span : Option Span) :
      Works c n c' → Works c (n + 1) (c'.report .error message code span)

theorem Works.trans {c c' c'' : Compilation} {m n : Nat} (h : c.Works m c') (h' : c'.Works n c'') :
    c.Works (m + n) c'' := by
  induction h' with
  | refl => exact h
  | tell he _ ih => exact .tell he ih
  | intern text _ ih => exact .intern text ih
  | report message code span _ ih => exact .report message code span ih

/-! ## The journal -/

/-- What is traced of interning a text. -/
def traces (c : Compilation) (text : String) : List Diagnostic.Content :=
  let (s, isNew, _) := c.strings.internFull text
  if isNew && c.settings.traceInterning then [⟨.info, internTrace s text, none, none⟩] else []

theorem level_of_mem_traces {c : Compilation} {text : String} :
    ∀ r ∈ c.traces text, r.level = .info := by
  rcases h : c.strings.internFull text with ⟨s, isNew, strings⟩
  simp only [traces, h]
  split
  · exact List.forall_mem_singleton.mpr rfl
  · exact List.forall_mem_nil _

/-- Interning leaves its trace in the journal, and nothing else. -/
theorem exists_records_intern (c : Compilation) (text : String) :
    ∃ new, (c.intern text).2.records = c.records ++ new ∧
      new.map Diagnostic.content = c.traces text := by
  rcases h : c.strings.internFull text with ⟨s, isNew, strings⟩
  simp only [intern, traces, h]
  split
  · obtain ⟨d, hcontent, hrecords⟩ := Scanner.journal_report { c with strings := strings }
      ⟨.info, internTrace s text, none, none⟩
    exact ⟨[d], hrecords, congrArg (fun r => [r]) hcontent⟩
  · exact ⟨[], (List.append_nil _).symm, rfl⟩

/-- Work leaves as many errors in the journal as it reports, and never a warning. -/
theorem Works.exists_records {c c' : Compilation} {n : Nat} (h : c.Works n c') :
    ∃ new, c'.records = c.records ++ new ∧ new.countP Diagnostic.isError = n ∧
      ∀ d ∈ new, d.level ≠ .warning := by
  induction h with
  | refl => exact ⟨[], (List.append_nil _).symm, rfl, List.forall_mem_nil _⟩
  | tell _ _ ih => exact ih
  | @intern n c' text _ ih =>
    obtain ⟨new, hnew, hcount, hwarning⟩ := ih
    obtain ⟨more, hmore, htraces⟩ := c'.exists_records_intern text
    -- A trace is an info, so it counts neither as an error nor as a warning.
    have hinfo : ∀ d ∈ more, d.level = .info := by
      intro d hd
      exact level_of_mem_traces d.content (htraces ▸ List.mem_map_of_mem hd)
    have hnone : more.countP Diagnostic.isError = 0 := by
      rw [List.countP_eq_zero]
      intro d hd
      rw [Diagnostic.isError, hinfo d hd]
      exact Bool.false_ne_true
    refine ⟨new ++ more, ?_, ?_, ?_⟩
    · rw [hmore, hnew, List.append_assoc]
    · rw [List.countP_append, hcount, hnone, Nat.add_zero]
    · rw [List.forall_mem_append]
      refine ⟨hwarning, ?_⟩
      intro d hd
      rw [hinfo d hd]
      decide
  | @report n c' message code span _ ih =>
    obtain ⟨new, hnew, hcount, hwarning⟩ := ih
    obtain ⟨d, hcontent, hd⟩ := Scanner.journal_report c' ⟨.error, message, code, span⟩
    have hlevel : d.level = .error := congrArg Diagnostic.Content.level hcontent
    refine ⟨new ++ [d], ?_, ?_, ?_⟩
    · rw [records, hd, ← List.append_assoc, ← hnew]
      rfl
    · rw [List.countP_append, hcount, List.countP_singleton, Diagnostic.isError, hlevel]
      rfl
    · rw [List.forall_mem_append, List.forall_mem_singleton, hlevel]
      exact ⟨hwarning, by decide⟩

end Compilation

/-! ## The scanner -/

namespace Scanner

/-- The errors that were reported on the way are those the scanner has counted. -/
def Accounts (s s' : Scanner) : Prop :=
  ∃ n, s.compilation.Works n s'.compilation ∧ s'.errors = s.errors + n

theorem Accounts.trans {s s' s'' : Scanner} (h : s.Accounts s') (h' : s'.Accounts s'') :
    s.Accounts s'' := by
  obtain ⟨m, hworks, herrors⟩ := h
  obtain ⟨n, hworks', herrors'⟩ := h'
  exact ⟨m + n, hworks.trans hworks', by rw [herrors', herrors, Nat.add_assoc]⟩

section

variable (s : Scanner)

theorem accounts_accept (reading : Reading) (span : Span) :
    s.Accounts (s.accept reading span).2 := by
  cases reading with
  | comment => exact ⟨0, .refl, rfl⟩
  | malformed e => exact ⟨1, .report _ _ _ .refl, rfl⟩
  | token kind payload =>
    cases payload with
    | none => exact ⟨0, .refl, rfl⟩
    | some word => exact ⟨0, .intern _ .refl, rfl⟩

/-- Moving the cursor is no work. -/
theorem accounts_moveTo (cursor : Cursor) : s.Accounts { s with cursor := cursor } :=
  ⟨0, .refl, rfl⟩

theorem accounts_scan : s.Accounts s.scan.2 := by
  unfold scan
  dsimp only
  split
  · exact s.accounts_moveTo _
  · exact (s.accounts_moveTo _).trans (accounts_accept _ _ _)

theorem accounts_announce (token : Token) : s.Accounts (s.announce token) :=
  ⟨0, .tell (Event.isForeign_scanned _) .refl, rfl⟩

theorem accounts_next : s.Accounts s.next.2 :=
  next_induction (R := Accounts) Accounts.trans accounts_scan accounts_announce s

theorem accounts_run : s.Accounts s.run.2 :=
  run_induction (R := Accounts) Accounts.trans accounts_next s

end

end Scanner

/-! ## The header reader -/

namespace Header.Reader

section Induction

variable {R : Reader → Reader → Prop} (htrans : ∀ {r r' r''}, R r r' → R r' r'' → R r r'')
  (hconsume : ∀ r, R r r.consume.2) (hrefuse : ∀ r kind, R r (r.refuse kind))

include hconsume hrefuse

theorem expect_induction (r : Reader) (kind : Kind) : R r (r.expect kind).2 := by
  unfold expect
  split
  · exact hconsume r
  · exact hrefuse r kind

variable (htell : ∀ r name isPublic, R r (r.tell (.declared name isPublic)))

include htrans htell

theorem readFrom_induction (r : Reader) (isPublic : Bool) (start : Span) :
    R r (r.readFrom isPublic start).2 := by
  have hexpect := expect_induction (R := R) hconsume hrefuse
  -- Each of the three tokens is either refused, which ends the reading, or taken.
  have hword := hexpect r (.keyword .moduleWord)
  rcases h₁ : r.expect (.keyword .moduleWord) with ⟨_ | word, r₁⟩ <;> rw [h₁] at hword
  · simpa only [readFrom, h₁] using hword
  have hname := htrans hword (hexpect r₁ .identifier)
  rcases h₂ : r₁.expect .identifier with ⟨_ | name, r₂⟩ <;> rw [h₂] at hname
  · simpa only [readFrom, h₁, h₂] using hname
  have hmark := htrans hname (hexpect r₂ (.punctuation .semicolon))
  rcases h₃ : r₂.expect (.punctuation .semicolon) with ⟨_ | semicolon, r₃⟩ <;> rw [h₃] at hmark
  · simpa only [readFrom, h₁, h₂, h₃] using hmark
  cases h₄ : name.symbol with
  | none => simpa only [readFrom, h₁, h₂, h₃, h₄] using hmark
  | some symbol => simpa only [readFrom, h₁, h₂, h₃, h₄] using htrans hmark (htell r₃ _ _)

/-- What holds across taking a token, refusing one, and telling of a header, holds across the reading
of a header. -/
theorem read_induction (r : Reader) : R r r.read.2 := by
  have hfrom := readFrom_induction (R := R) htrans hconsume hrefuse htell
  unfold read
  dsimp only
  split
  · exact htrans (htrans (hconsume r) (hconsume _)) (hfrom _ _ _)
  · exact htrans (hconsume r) (hfrom _ _ _)

end Induction

/-- The errors that were reported on the way are those that the scanner and the reader have
counted. -/
def Accounts (r r' : Reader) : Prop :=
  ∃ n, r.compilation.Works n r'.compilation ∧
    r'.scanner.errors + r'.errors = r.scanner.errors + r.errors + n

theorem Accounts.trans {r r' r'' : Reader} (h : r.Accounts r') (h' : r'.Accounts r'') :
    r.Accounts r'' := by
  obtain ⟨m, hworks, herrors⟩ := h
  obtain ⟨n, hworks', herrors'⟩ := h'
  exact ⟨m + n, hworks.trans hworks', by rw [herrors', herrors, Nat.add_assoc]⟩

section

variable (r : Reader)

theorem accounts_consume : r.Accounts r.consume.2 := by
  obtain ⟨n, hworks, herrors⟩ := r.scanner.accounts_next
  refine ⟨n, .tell (Event.isForeign_consumed _) hworks, ?_⟩
  show r.scanner.next.2.errors + r.errors = _
  rw [herrors, Nat.add_right_comm]

theorem accounts_refuse (kind : Kind) : r.Accounts (r.refuse kind) :=
  ⟨1, .report _ _ _ .refl, rfl⟩

theorem accounts_declared (name : String) (isPublic : Bool) :
    r.Accounts (r.tell (.declared name isPublic)) :=
  ⟨0, .tell (Event.isForeign_declared _ _) .refl, rfl⟩

theorem accounts_expect (kind : Kind) : r.Accounts (r.expect kind).2 :=
  expect_induction (R := Accounts) accounts_consume accounts_refuse r kind

theorem accounts_read : r.Accounts r.read.2 :=
  read_induction (R := Accounts) Accounts.trans accounts_consume accounts_refuse
    accounts_declared r

end

end Header.Reader

end FrontEnd
