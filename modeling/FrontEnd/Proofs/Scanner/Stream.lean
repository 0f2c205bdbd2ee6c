/-
# FrontEnd.Proofs.Scanner.Stream — the tokens that a scanner goes on to hand out.

`tokenAt n` is the token that comes out when `n` others have come out before, and `after n` the
scanner at that moment.  Behind the end of the text the end token is repeated for good.  Each token
has a symbol just when its kind asks for one (`isSome_symbol_tokenAt`), and stands behind the tokens
before it (`span_tokenAt_le`).

Which tokens come out depends on the cursor and on the string table alone.  `InStep` scanners, which
have these in common, hand out the same tokens and stay in step (`InStep.next`), whatever has
happened to their journals, logs and event streams.  How many tokens were handed out is on record in
the event stream: each call announces one token (`announced_next`).
-/
import FrontEnd.Proofs.Diagnostic.Call
import FrontEnd.Proofs.Scanner.Progress

namespace FrontEnd

/-! ## Announcements -/

/-- Whether an event announces a token. -/
def Event.isScanned : Event → Bool
  | .scanned _ => true
  | _ => false

/-- The number of tokens announced so far. -/
def Host.announced (h : Host) : Nat := h.events.countP Event.isScanned

theorem Host.announced_tell (h : Host) (e : Event) :
    (h.tell e).announced = h.announced + if e.isScanned then 1 else 0 :=
  Array.countP_push

/-- Writing the log announces no token, even if it fails. -/
theorem Diagnostic.Journal.announced_writeLog (j : Journal) (h : Host) (d : Diagnostic) :
    (j.writeLog h d).announced = h.announced := by
  obtain ⟨-, disk, hhost⟩ | ⟨fault, -, hhost⟩ := j.writeLog_cases h d
  · rw [hhost]
    rfl
  · rw [hhost]
    exact h.announced_tell _

namespace Compilation

variable (c : Compilation)

theorem announced_report (level : Diagnostic.Level) (message : String)
    (code : Option Diagnostic.Code) (span : Option Span) :
    (c.report level message code span).host.announced = c.host.announced := by
  show (c.journal.writeLog _ _).announced = _
  rw [Diagnostic.Journal.announced_writeLog]
  exact Host.announced_tell _ _

theorem announced_intern (text : String) :
    (c.intern text).2.host.announced = c.host.announced := by
  unfold intern
  dsimp only
  split
  · exact announced_report _ _ _ _ _
  · rfl

end Compilation

namespace Scanner

/-- The number of tokens the scanner and all before it in the compilation have handed out. -/
def announced (s : Scanner) : Nat := s.compilation.host.announced

theorem announced_accept (s : Scanner) (reading : Reading) (span : Span) :
    (s.accept reading span).2.announced = s.announced := by
  cases reading with
  | comment => rfl
  | malformed e => exact s.compilation.announced_report _ _ _ _
  | token kind payload =>
    cases payload with
    | none => rfl
    | some word => exact s.compilation.announced_intern _

theorem announced_scan (s : Scanner) : s.scan.2.announced = s.announced := by
  unfold scan
  dsimp only
  split
  · rfl
  · exact announced_accept _ _ _

/-- Each call for the next token announces one token. -/
theorem announced_next (s : Scanner) : s.next.2.announced = s.announced + 1 := by
  fun_induction next s with
  | case1 s t s' hscan =>
    have hsame := s.announced_scan
    rw [hscan] at hsame
    rw [← hsame]
    exact Host.announced_tell _ _
  | case2 s s' hscan ih =>
    have hsame := s.announced_scan
    rw [hscan] at hsame
    rw [ih, ← hsame]

/-! ## The stream -/

/-- The scanner behind the next `n` tokens. -/
def after (s : Scanner) : Nat → Scanner
  | 0 => s
  | n + 1 => (s.after n).next.2

/-- The token behind the next `n` tokens. -/
def tokenAt (s : Scanner) (n : Nat) : Token := (s.after n).next.1

theorem after_add (s : Scanner) (m n : Nat) : (s.after m).after n = s.after (m + n) := by
  induction n with
  | zero => rfl
  | succ n ih => rw [after, ih, ← Nat.add_assoc, after]

theorem tokenAt_after (s : Scanner) (m n : Nat) : (s.after m).tokenAt n = s.tokenAt (m + n) := by
  rw [tokenAt, after_add, tokenAt]

/-- Behind the end token comes the end token. -/
theorem tokenAt_succ_of_end {s : Scanner} {n : Nat} (h : (s.tokenAt n).isEnd = true) :
    s.tokenAt (n + 1) = s.tokenAt n := by
  obtain ⟨hrest, hend⟩ := next_end (s := s.after n) h
  show (s.after n).next.2.next.1 = (s.after n).next.1
  rw [next_of_rest_nil hrest, hend]

theorem isSome_symbol_of_scan {s s' : Scanner} {t : Token} (h : s.scan = (some t, s')) :
    t.symbol.isSome = t.kind.hasPayload := by
  obtain ⟨blanks, start, -, -, ⟨-, hend⟩ | ⟨text, stop, reading, -, -, hreads, haccept⟩⟩ :=
    s.scan_cases
  · rw [hend] at h
    obtain ⟨⟨⟩, -⟩ := Prod.mk.inj h
    rfl
  · rw [haccept] at h
    obtain ⟨payload, rfl, -, hsome⟩ := exists_payload_of_accept (congrArg Prod.fst h)
    rw [hsome]
    exact hreads.isSome_payload

theorem isSome_symbol_next (s : Scanner) : s.next.1.symbol.isSome = s.next.1.kind.hasPayload := by
  fun_induction next s with
  | case1 s t s' hscan => exact isSome_symbol_of_scan hscan
  | case2 s s' hscan ih => exact ih

/-- A token has a symbol if its kind is one with a payload, and only then. -/
theorem isSome_symbol_tokenAt (s : Scanner) (n : Nat) :
    (s.tokenAt n).symbol.isSome = (s.tokenAt n).kind.hasPayload :=
  (s.after n).isSome_symbol_next

/-- The kinds of the next `n` tokens. -/
def kinds (s : Scanner) (n : Nat) : List Kind := (List.range n).map fun i => (s.tokenAt i).kind

theorem kinds_succ (s : Scanner) (n : Nat) :
    s.kinds (n + 1) = s.kinds n ++ [(s.tokenAt n).kind] := by
  rw [kinds, List.range_succ, List.map_append]
  rfl

theorem kinds_prefix (s : Scanner) {m n : Nat} (h : m ≤ n) : s.kinds m <+: s.kinds n := by
  induction n, h using Nat.le_induction with
  | base => exact List.prefix_rfl
  | succ n _ ih =>
    rw [kinds_succ]
    exact ih.trans (List.prefix_append _ _)

/-- The next tokens are of these kinds. -/
def Begins (s : Scanner) (ks : List Kind) : Prop := s.kinds ks.length = ks

theorem Begins.concat {s : Scanner} {ks : List Kind} {kind : Kind} (h : s.Begins ks)
    (hkind : (s.tokenAt ks.length).kind = kind) : s.Begins (ks ++ [kind]) := by
  rw [Begins, List.length_append, List.length_singleton, kinds_succ, hkind, h]

/-- Tokens later in the stream start later and stop later. -/
theorem span_tokenAt_le (s : Scanner) {m n : Nat} (h : m ≤ n) :
    (s.tokenAt m).span.start ≤ (s.tokenAt n).span.start ∧
      (s.tokenAt m).span.stop ≤ (s.tokenAt n).span.stop := by
  induction n, h using Nat.le_induction with
  | base => exact ⟨Nat.le_refl _, Nat.le_refl _⟩
  | succ n _ ih =>
    obtain ⟨-, hn, hstop⟩ := (s.after n).span_next
    obtain ⟨hstart, hsucc, -⟩ := (s.after (n + 1)).span_next
    have hseam : (s.tokenAt n).span.stop ≤ (s.tokenAt (n + 1)).span.start := hstop.trans_le hstart
    exact ⟨(ih.1.trans hn).trans hseam, (ih.2.trans hseam).trans hsucc⟩

/-! ## Scanners in step -/

/-- The two stand at the same place of the same text, with the same strings interned and the same
number of errors counted. -/
structure InStep (s u : Scanner) : Prop where
  cursor : s.cursor = u.cursor
  strings : s.strings = u.strings
  errors : s.errors = u.errors

section

variable {s u : Scanner}

theorem InStep.accept (h : s.InStep u) (reading : Reading) (span : Span) :
    (s.accept reading span).1 = (u.accept reading span).1 ∧
      (s.accept reading span).2.InStep (u.accept reading span).2 := by
  cases reading with
  | comment => exact ⟨rfl, h⟩
  | malformed e => exact ⟨rfl, h.cursor, h.strings, congrArg (· + 1) h.errors⟩
  | token kind payload =>
    cases payload with
    | none => exact ⟨rfl, h⟩
    | some word =>
      have hstrings : s.compilation.strings = u.compilation.strings := h.strings
      have hintern : (s.compilation.intern (.ofList word)).2.strings =
          (u.compilation.intern (.ofList word)).2.strings := by
        rw [strings_intern, strings_intern, hstrings]
      have hsymbol : (s.compilation.intern (.ofList word)).1 =
          (u.compilation.intern (.ofList word)).1 := by
        apply Option.some.inj
        rw [← lookup_intern_strings, ← lookup_intern_strings, hintern]
      refine ⟨?_, h.cursor, hintern, h.errors⟩
      show some (Token.mk kind (some (s.compilation.intern (.ofList word)).1) span) =
        some (Token.mk kind (some (u.compilation.intern (.ofList word)).1) span)
      rw [hsymbol]

theorem InStep.scan (h : s.InStep u) : s.scan.1 = u.scan.1 ∧ s.scan.2.InStep u.scan.2 := by
  obtain ⟨compilation, cursor, errors⟩ := s
  obtain ⟨hcursor, hstrings, herrors⟩ := h
  obtain rfl : cursor = u.cursor := hcursor
  unfold Scanner.scan
  dsimp only
  split
  · exact ⟨rfl, rfl, hstrings, herrors⟩
  · apply InStep.accept
    exact ⟨rfl, hstrings, herrors⟩

/-- Scanners in step hand out the same token, and are in step behind it. -/
theorem InStep.next (h : s.InStep u) : s.next.1 = u.next.1 ∧ s.next.2.InStep u.next.2 := by
  fun_induction Scanner.next s generalizing u with
  | case1 s t s' hscan =>
    obtain ⟨htoken, hstep⟩ := h.scan
    rw [hscan] at htoken hstep
    have hu : u.scan = (some t, u.scan.2) := Prod.ext htoken.symm rfl
    rw [next_of_scan_some hu]
    exact ⟨rfl, hstep.cursor, hstep.strings, hstep.errors⟩
  | case2 s s' hscan ih =>
    obtain ⟨htoken, hstep⟩ := h.scan
    rw [hscan] at htoken hstep
    have hu : u.scan = (none, u.scan.2) := Prod.ext htoken.symm rfl
    rw [next_of_scan_none hu]
    exact ih hstep

theorem InStep.after (h : s.InStep u) (n : Nat) : (s.after n).InStep (u.after n) := by
  induction n with
  | zero => exact h
  | succ n ih => exact ih.next.2

/-- Scanners in step go on to hand out the same tokens. -/
theorem InStep.tokenAt_eq (h : s.InStep u) (n : Nat) : s.tokenAt n = u.tokenAt n :=
  (h.after n).next.1

end

end Scanner

end FrontEnd
