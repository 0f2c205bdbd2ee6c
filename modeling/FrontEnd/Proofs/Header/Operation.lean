/-
# FrontEnd.Proofs.Header.Operation — reader operations in any number and order.

A reader takes tokens from its scanner by `consume` alone, and holds the last one it has taken.  So
whatever is asked of it, the tokens it has taken are the first ones of the scanner's stream, without
a gap and none of them twice, and its scanner goes on with the one behind them (`Follows`).  Each
operation keeps this because taking a token, refusing one and telling of a header do
(`Follows.perform`).

A token that is refused is not taken: the reader stays where it is, and all that becomes of the
refusal is one complaint (`Complained`).
-/
import FrontEnd.Proofs.Compilation.Work
import FrontEnd.Proofs.Header.Reader

namespace FrontEnd.Header.Reader

/-! ## Operations -/

/-- What can be asked of a reader. -/
inductive Operation where
  | consume
  | expect (required : Kind)
  | read

/-- The reader behind an operation. -/
def perform (r : Reader) : Operation → Reader
  | .consume => r.consume.2
  | .expect required => (r.expect required).2
  | .read => r.read.2

/-- The reader behind a list of operations. -/
def performAll (r : Reader) (ops : List Operation) : Reader := ops.foldl perform r

/-! ## The tokens a reader takes -/

/-- The later reader comes from the earlier one by taking these tokens one by one.  In between it may
refuse a token and tell of a header. -/
inductive Pulls (r : Reader) : List Token → Reader → Prop
  | refl : Pulls r [] r
  | consume {ts : List Token} {r' : Reader} :
      Pulls r ts r' → Pulls r (ts ++ [r'.consume.1]) r'.consume.2
  | refuse {ts : List Token} {r' : Reader} (required : Kind) :
      Pulls r ts r' → Pulls r ts (r'.refuse required)
  | tell {ts : List Token} {r' : Reader} (name : String) (isPublic : Bool) :
      Pulls r ts r' → Pulls r ts (r'.tell (.declared name isPublic))

/-- What a reader holds that has taken `n` tokens: the last of them, and before the first one a token
that stands for none. -/
def held (s : Scanner) : Nat → Token
  | 0 => .absent
  | n + 1 => s.tokenAt n

/-- The reader has been made over the scanner `s` and has taken its first `n` tokens, and no more. -/
structure Follows (r : Reader) (s : Scanner) (n : Nat) : Prop where
  pulls : (ofScanner s).Pulls ((List.range n).map s.tokenAt) r
  current : r.current = held s n
  takes : r.Takes s n

theorem follows_ofScanner (s : Scanner) : (ofScanner s).Follows s 0 :=
  ⟨.refl, rfl, ⟨⟨rfl, rfl, rfl⟩, rfl⟩⟩

section Step

variable {r : Reader} {s : Scanner} {n : Nat}

theorem Follows.fst_consume (h : r.Follows s n) : r.consume.1 = s.tokenAt n :=
  h.takes.consume.current

theorem Follows.consume (h : r.Follows s n) : r.consume.2.Follows s (n + 1) := by
  refine ⟨?_, h.takes.consume.current, h.takes.consume.takes⟩
  have hpulls := h.pulls.consume
  rw [h.fst_consume] at hpulls
  rwa [List.range_succ, List.map_append]

theorem Follows.refuse (h : r.Follows s n) (required : Kind) :
    (r.refuse required).Follows s n :=
  ⟨h.pulls.refuse required, h.current, h.takes.refuse required⟩

theorem Follows.tell (h : r.Follows s n) (name : String) (isPublic : Bool) :
    (r.tell (.declared name isPublic)).Follows s n :=
  ⟨h.pulls.tell name isPublic, h.current, h.takes.tell rfl⟩

/-- The scanner in the reader goes on with the token behind those that were taken. -/
theorem Follows.tokenAt_eq (h : r.Follows s n) (i : Nat) :
    r.scanner.tokenAt i = s.tokenAt (n + i) := by
  rw [h.takes.inStep.tokenAt_eq, Scanner.tokenAt_after]

/-- Whatever is asked of a reader, it only takes tokens further on. -/
theorem Follows.perform (h : r.Follows s n) (op : Operation) :
    ∃ m, n ≤ m ∧ (r.perform op).Follows s m := by
  have hconsume (r : Reader) (n : Nat) (h : r.Follows s n) :
      ∃ m, n ≤ m ∧ r.consume.2.Follows s m := ⟨n + 1, Nat.le_succ n, h.consume⟩
  have hrefuse (r : Reader) (required : Kind) (n : Nat) (h : r.Follows s n) :
      ∃ m, n ≤ m ∧ (r.refuse required).Follows s m := ⟨n, Nat.le_refl n, h.refuse required⟩
  cases op with
  | consume => exact hconsume r n h
  | expect required =>
    exact expect_induction (R := fun r r' => ∀ n, r.Follows s n → ∃ m, n ≤ m ∧ r'.Follows s m)
      hconsume hrefuse r required n h
  | read =>
    refine read_induction (R := fun r r' => ∀ n, r.Follows s n → ∃ m, n ≤ m ∧ r'.Follows s m)
      ?_ hconsume hrefuse ?_ r n h
    · intro r r' r'' hfirst hrest n h
      obtain ⟨m, hm, h'⟩ := hfirst n h
      obtain ⟨k, hk, h''⟩ := hrest m h'
      exact ⟨k, hm.trans hk, h''⟩
    · intro r name isPublic n h
      exact ⟨n, Nat.le_refl n, h.tell name isPublic⟩

theorem Follows.performAll (h : r.Follows s n) (ops : List Operation) :
    ∃ m, n ≤ m ∧ (r.performAll ops).Follows s m := by
  induction ops generalizing r n with
  | nil => exact ⟨n, Nat.le_refl n, h⟩
  | cons op ops ih =>
    obtain ⟨m, hm, h'⟩ := h.perform op
    obtain ⟨k, hk, h''⟩ := ih h'
    exact ⟨k, hm.trans hk, h''⟩

end Step

/-! ## Refusals -/

/-- The later reader has complained that its current token is not of the kind required, and has done
nothing else.  The string table it has left alone includes the counts of requests. -/
structure Complained (r : Reader) (required : Kind) (r' : Reader) : Prop where
  current : r'.current = r.current
  cursor : r'.scanner.cursor = r.scanner.cursor
  scannerErrors : r'.scanner.errors = r.scanner.errors
  strings : r'.scanner.strings = r.scanner.strings
  errors : r'.errors = r.errors + 1
  record : ∃ d : Diagnostic, r'.scanner.records = r.scanner.records ++ [d] ∧
    d.content = ⟨.error, mismatch required r.current, some .expectedToken, some r.current.span⟩

theorem complained_refuse (r : Reader) (required : Kind) :
    r.Complained required (r.refuse required) := by
  obtain ⟨d, hcontent, hrecords⟩ := Scanner.journal_report r.compilation
    ⟨.error, mismatch required r.current, some .expectedToken, some r.current.span⟩
  exact ⟨rfl, rfl, rfl, rfl, rfl, d, hrecords, hcontent⟩

theorem expect_of_eq {r : Reader} {required : Kind} (h : r.current.kind = required) :
    r.expect required = (some r.current, r.consume.2) := if_pos h

theorem expect_of_ne {r : Reader} {required : Kind} (h : r.current.kind ≠ required) :
    r.expect required = (none, r.refuse required) := if_neg h

/-- Whatever a reader over a scanner is asked to do, the tokens it has taken are the first of those
that the scanner hands out, where the end token is followed by itself; it holds the last of them, and
its scanner goes on with the next one.  A token is required with success just when it is the current
one's kind that is required, and then the current token is handed out and one more is taken.
Otherwise there is one complaint, which names the kinds and the place of the current token, and
nothing else is changed. -/
theorem tokens_conserved (s : Scanner) (ops : List Operation) :
    let r := (ofScanner s).performAll ops
    (∀ i, (s.tokenAt i).isEnd = true → s.tokenAt (i + 1) = s.tokenAt i) ∧
      ∃ n, r.Follows s n ∧ (∀ i, r.scanner.tokenAt i = s.tokenAt (n + i)) ∧
        r.consume.1 = s.tokenAt n ∧ r.consume.2.Follows s (n + 1) ∧
        ∀ required,
          let result := r.expect required
          (result.1.isSome = true ↔ r.current.kind = required) ∧
            (∀ t, result.1 = some t → t = r.current ∧ result.2.Follows s (n + 1)) ∧
            (result.1 = none → result.2.Follows s n ∧ r.Complained required result.2) := by
  intro r
  refine ⟨fun i => Scanner.tokenAt_succ_of_end, ?_⟩
  obtain ⟨n, -, h⟩ := (follows_ofScanner s).performAll ops
  refine ⟨n, h, h.tokenAt_eq, h.fst_consume, h.consume, ?_⟩
  intro required result
  by_cases hkind : r.current.kind = required
  · have hresult : result = (some r.current, r.consume.2) := expect_of_eq hkind
    rw [hresult]
    refine ⟨iff_of_true rfl hkind, ?_, nofun⟩
    rintro t ⟨⟩
    exact ⟨rfl, h.consume⟩
  · have hresult : result = (none, r.refuse required) := expect_of_ne hkind
    rw [hresult]
    exact ⟨iff_of_false Bool.false_ne_true hkind, nofun,
      fun _ => ⟨h.refuse required, r.complained_refuse required⟩⟩

/-- A reader that is asked to read on behind the header drops the token it holds, the word `const`,
and takes the one behind it, which starts no header.  That is a name, and no end of the text. -/
theorem tokens_conserved_two_reads :
    let c : Compilation := .withoutLog .standard (.ofDisk .fresh fun _ => 0)
    let s := Scanner.ofText c "module m; const x"
    let r := (ofScanner s).performAll [.read, .read]
    r.current.span = ⟨16, 17, 0, 16⟩ ∧ r.current.kind = .identifier ∧ r.errors = 1 ∧
      (s.tokenAt 5).isEnd = true ∧ s.tokenAt 6 = s.tokenAt 5 ∧
      ∃ n, r.Follows s n ∧
        (r.expect .identifier).1 = some r.current ∧ (r.expect .identifier).2.Follows s (n + 1) ∧
        (r.expect .endOfText).1 = none ∧ (r.expect .endOfText).2.Follows s n ∧
        r.Complained .endOfText (r.expect .endOfText).2 := by
  intro c s r
  have hspan : r.current.span = ⟨16, 17, 0, 16⟩ := by decide +kernel
  have hkind : r.current.kind = .identifier := by decide +kernel
  have herrors : r.errors = 1 := by decide +kernel
  have hend : (s.tokenAt 5).isEnd = true := by decide +kernel
  have hmet : (r.expect .identifier).1 = some r.current := by decide +kernel
  have hunmet : (r.expect .endOfText).1 = none := by decide +kernel
  obtain ⟨hstays, n, hfollows, -, -, -, hexpect⟩ := tokens_conserved s [.read, .read]
  obtain ⟨-, htaken, -⟩ := hexpect .identifier
  obtain ⟨-, -, hrefused⟩ := hexpect .endOfText
  obtain ⟨hfollows', hcomplained⟩ := hrefused hunmet
  exact ⟨hspan, hkind, herrors, hend, hstays 5 hend, n, hfollows, hmet, (htaken _ hmet).2, hunmet,
    hfollows', hcomplained⟩

end FrontEnd.Header.Reader
