/-
# FrontEnd.Proofs.Header.Reader — the header reader accepts its grammar and nothing else.

The grammar has two words, with and without `pub` (`Header.shape`), and the reader is measured
against the tokens that its scanner would hand out if it were asked directly.  As long as those
follow the grammar the reader stays one token ahead of what it has stepped over (`Past`), and
`expect` takes it one kind further (`Past.expect_met`).  At the first token that departs from the
grammar it stops, in front of that token and with one complaint (`Past.expect_unmet`).

What the scanner reports on the way is no complaint: no lexical error has the reader's code.
-/
import FrontEnd.Header.Reader
import FrontEnd.Proofs.Scanner.Stream

namespace FrontEnd

/-! ## Complaints -/

theorem LexicalError.code_ne_expectedToken (e : LexicalError) : e.code ≠ .expectedToken := by
  cases e <;> nofun

/-- Whether a diagnostic says that a token is not of the kind required. -/
def Diagnostic.isComplaint (d : Diagnostic) : Bool := d.code == some .expectedToken

namespace Scanner

/-- The complaints that came into the journal since an earlier state. -/
def complaintsSince (s' s : Scanner) : List Diagnostic :=
  (s'.records.drop s.records.length).filter Diagnostic.isComplaint

/-- On the way from one state to the other, records came into the journal and the complaints among
them are `ds`. -/
def Complains (s s' : Scanner) (ds : List Diagnostic) : Prop :=
  ∃ new, s'.records = s.records ++ new ∧ new.filter Diagnostic.isComplaint = ds

section Complains

variable {s s' s'' : Scanner} {ds ds' : List Diagnostic}

theorem Complains.of_records_eq (h : s'.records = s.records) : s.Complains s' [] :=
  ⟨[], h.trans (List.append_nil _).symm, rfl⟩

theorem Complains.trans (h : s.Complains s' ds) (h' : s'.Complains s'' ds') :
    s.Complains s'' (ds ++ ds') := by
  obtain ⟨new, hnew, rfl⟩ := h
  obtain ⟨more, hmore, rfl⟩ := h'
  exact ⟨new ++ more, by rw [hmore, hnew, List.append_assoc], List.filter_append ..⟩

theorem Complains.complaintsSince_eq (h : s.Complains s' ds) : s'.complaintsSince s = ds := by
  obtain ⟨new, hnew, rfl⟩ := h
  rw [complaintsSince, hnew, List.drop_left]

end Complains

section

variable (s : Scanner)

theorem complains_accept (reading : Reading) (span : Span) :
    s.Complains (s.accept reading span).2 [] := by
  cases reading with
  | comment => exact .of_records_eq rfl
  | malformed e =>
    obtain ⟨d, hcontent, -, hrecords⟩ := s.records_report e span
    refine ⟨[d], hrecords, ?_⟩
    have hcode : d.code = some e.code := congrArg Diagnostic.Content.code hcontent
    rw [List.filter_singleton, Diagnostic.isComplaint, hcode,
      beq_eq_false_iff_ne.mpr fun h => e.code_ne_expectedToken (Option.some.inj h)]
    rfl
  | token kind payload =>
    cases payload with
    | none => exact .of_records_eq rfl
    | some word =>
      -- the trace of a new text carries no code at all
      obtain ⟨new, hnew, -, hcode⟩ := records_intern s.compilation (.ofList word)
      refine ⟨new, hnew, List.filter_eq_nil_iff.mpr ?_⟩
      intro d hd
      rw [Diagnostic.isComplaint, hcode d hd]
      exact Bool.false_ne_true

theorem complains_scan : s.Complains s.scan.2 [] := by
  unfold scan
  dsimp only
  split
  · exact .of_records_eq rfl
  · exact complains_accept { s with cursor := _ } _ _

/-- A scanner reports what is wrong with the text, but makes no complaint. -/
theorem complains_next : s.Complains s.next.2 [] :=
  next_induction (R := (Complains · · [])) Complains.trans complains_scan
    (fun _ _ => .of_records_eq rfl) s

end

end Scanner

/-! ## The grammar -/

namespace Header

/-- What stands in front of the word `module`. -/
def opening (isPublic : Bool) : List Kind := if isPublic then [.keyword .pubWord] else []

/-- What a header consists of from the word `module` on. -/
def body : List Kind := [.keyword .moduleWord, .identifier, .punctuation .semicolon]

/-- The kinds of the tokens of a header. -/
def shape (isPublic : Bool) : List Kind := opening isPublic ++ body

theorem length_opening (isPublic : Bool) : (opening isPublic).length = isPublic.toNat := by
  cases isPublic <;> rfl

theorem length_shape (isPublic : Bool) : (shape isPublic).length = isPublic.toNat + 3 := by
  cases isPublic <;> rfl

/-- The first token tells which of the two words of the grammar it can be. -/
theorem isPublic_iff_of_kinds {s : Scanner} {n : Nat} {isPublic : Bool}
    (h : s.kinds (n + 1) <+: shape isPublic) :
    isPublic = true ↔ (s.tokenAt 0).kind = .keyword .pubWord := by
  obtain ⟨rest, hrest⟩ := h
  rw [Scanner.kinds, List.range_succ_eq_map, List.map_cons] at hrest
  cases isPublic with
  | true =>
    obtain ⟨hfirst, -⟩ := List.cons.inj hrest
    exact iff_of_true rfl hfirst
  | false =>
    obtain ⟨hfirst, -⟩ := List.cons.inj hrest
    refine iff_of_false Bool.false_ne_true ?_
    rw [hfirst]
    decide

/-- Tokens that follow the grammar as far as `ks` and depart from it with the next one are the
beginning of no header. -/
theorem not_kinds_prefix {s : Scanner} {isPublic : Bool} {ks : List Kind} {required : Kind}
    (hpublic : isPublic = true ↔ (s.tokenAt 0).kind = .keyword .pubWord)
    (hnext : ks ++ [required] <+: shape isPublic) (hbegins : s.Begins ks)
    (hother : (s.tokenAt ks.length).kind ≠ required) (b : Bool) :
    ¬ s.kinds (ks.length + 1) <+: shape b := by
  intro hb
  obtain rfl : b = isPublic := Bool.eq_iff_iff.mpr ((isPublic_iff_of_kinds hb).trans hpublic.symm)
  rw [Scanner.kinds_succ, hbegins] at hb
  have hsame := List.prefix_of_prefix_length_le hb hnext (by simp)
  have heq := hsame.eq_of_length (by simp)
  exact hother (List.singleton_inj.mp (List.append_cancel_left heq))

namespace Reader

/-! ## One token ahead -/

/-- The reader has taken `n` tokens from the scanner `s`, and no more. -/
structure Takes (r : Reader) (s : Scanner) (n : Nat) : Prop where
  inStep : r.scanner.InStep (s.after n)
  announced : r.scanner.announced = s.announced + n

/-- The reader stands in front of the token at `n`, the last one it has taken. -/
structure Holds (r : Reader) (s : Scanner) (n : Nat) : Prop where
  current : r.current = s.tokenAt n
  takes : r.Takes s (n + 1)

/-- The reader has stepped over tokens of these kinds, and has complained about none of them. -/
structure Past (r : Reader) (s : Scanner) (ks : List Kind) : Prop where
  begins : s.Begins ks
  holds : r.Holds s ks.length
  complains : s.Complains r.scanner []
  errors : r.errors = 0

/-- The reader has stepped over tokens of the kinds `ks` and has stopped in front of a token that is
not of the kind required, with one complaint that says so. -/
structure Refuses (r : Reader) (s : Scanner) (ks : List Kind) (required : Kind) : Prop where
  begins : s.Begins ks
  departs : (s.tokenAt ks.length).kind ≠ required
  holds : r.Holds s ks.length
  errors : r.errors = 1
  complaint :
    let found := s.tokenAt ks.length
    (r.scanner.complaintsSince s).map Diagnostic.content =
      [⟨.error,
        "expected " ++ required.display ++ ", found " ++ found.kind.display ++ " at " ++
          found.span.display,
        some .expectedToken, some found.span⟩]

/-- The reader has read `header`, and stands in front of the token behind it. -/
structure Accepts (r : Reader) (s : Scanner) (header : Header) : Prop where
  begins : s.Begins (shape header.isPublic)
  isPublic : header.isPublic = true ↔ (s.tokenAt 0).kind = .keyword .pubWord
  name : (s.tokenAt (header.isPublic.toNat + 1)).symbol = some header.name
  span :
    let first := (s.tokenAt 0).span
    header.span =
      ⟨first.start, (s.tokenAt (header.isPublic.toNat + 2)).span.stop, first.line, first.column⟩
  holds : r.Holds s (header.isPublic.toNat + 3)
  errors : r.errors = 0
  complaints : r.scanner.complaintsSince s = []

section Step

variable {r : Reader} {s : Scanner} {n : Nat} {ks : List Kind} {kind : Kind}

theorem Takes.consume (h : r.Takes s n) : r.consume.2.Holds s n := by
  obtain ⟨htoken, hstep⟩ := h.inStep.next
  refine ⟨htoken, ⟨hstep.cursor, hstep.strings, hstep.errors⟩, ?_⟩
  show (r.scanner.next.2.compilation.host.tell _).announced = _
  rw [Host.announced_tell]
  show r.scanner.next.2.announced + 0 = _
  rw [Scanner.announced_next, h.announced]
  rfl

/-- Refusing a token takes none. -/
theorem Takes.refuse (h : r.Takes s n) (required : Kind) : (r.refuse required).Takes s n := by
  obtain ⟨⟨hcursor, hstrings, herrors⟩, hannounced⟩ := h
  refine ⟨⟨hcursor, hstrings, herrors⟩, ?_⟩
  exact (r.compilation.announced_report _ _ _ _).trans hannounced

/-- Speaking to the event stream takes no token. -/
theorem Takes.tell (h : r.Takes s n) {e : Event} (he : e.isScanned = false) :
    (r.tell e).Takes s n := by
  obtain ⟨⟨hcursor, hstrings, herrors⟩, hannounced⟩ := h
  refine ⟨⟨hcursor, hstrings, herrors⟩, ?_⟩
  show (r.compilation.host.tell e).announced = _
  rw [Host.announced_tell, he]
  exact hannounced

theorem complains_consume (r : Reader) : r.scanner.Complains r.consume.2.scanner [] :=
  r.scanner.complains_next

theorem Past.tell (h : r.Past s ks) {e : Event} (he : e.isScanned = false) :
    (r.tell e).Past s ks :=
  ⟨h.begins, ⟨h.holds.current, h.holds.takes.tell he⟩, h.complains, h.errors⟩

/-- A new reader that takes its first token has stepped over nothing. -/
theorem past_ofScanner (s : Scanner) : (ofScanner s).consume.2.Past s [] := by
  have htakes : (ofScanner s).Takes s 0 := ⟨⟨rfl, rfl, rfl⟩, rfl⟩
  exact ⟨rfl, htakes.consume, complains_consume _, rfl⟩

theorem Past.consume (h : r.Past s ks) (hkind : (s.tokenAt ks.length).kind = kind) :
    r.consume.2.Past s (ks ++ [kind]) := by
  refine ⟨h.begins.concat hkind, ?_, h.complains.trans r.complains_consume, h.errors⟩
  rw [List.length_append, List.length_singleton]
  exact h.holds.takes.consume

theorem Past.expect_met (h : r.Past s ks) (hkind : (s.tokenAt ks.length).kind = kind) :
    ∃ r', r.expect kind = (some (s.tokenAt ks.length), r') ∧ r'.Past s (ks ++ [kind]) := by
  refine ⟨r.consume.2, ?_, h.consume hkind⟩
  rw [expect, h.holds.current, if_pos hkind]

theorem Past.expect_unmet (h : r.Past s ks) (hkind : (s.tokenAt ks.length).kind ≠ kind) :
    ∃ r', r.expect kind = (none, r') ∧ r'.Refuses s ks kind := by
  have hcurrent := h.holds.current
  refine ⟨r.refuse kind, ?_, h.begins, hkind, ⟨hcurrent, h.holds.takes.refuse kind⟩, ?_, ?_⟩
  · rw [expect, hcurrent, if_neg hkind]
  · show r.errors + 1 = 1
    rw [h.errors]
  · obtain ⟨d, hcontent, hrecords⟩ := Scanner.journal_report r.compilation
      ⟨.error, mismatch kind r.current, some .expectedToken, some r.current.span⟩
    have hcode : d.code = some .expectedToken := congrArg Diagnostic.Content.code hcontent
    have hone : r.scanner.Complains (r.refuse kind).scanner [d] := by
      refine ⟨[d], hrecords, ?_⟩
      rw [List.filter_singleton, Diagnostic.isComplaint, hcode]
      rfl
    rw [(h.complains.trans hone).complaintsSince_eq, List.nil_append, List.map_singleton, hcontent,
      hcurrent]
    rfl

/-- What becomes of a reader that requires the next token to be of some kind. -/
theorem Past.expect_cases (h : r.Past s ks) (kind : Kind) :
    (∃ r', r.expect kind = (some (s.tokenAt ks.length), r') ∧
        (s.tokenAt ks.length).kind = kind ∧ r'.Past s (ks ++ [kind])) ∨
      ∃ r', r.expect kind = (none, r') ∧ r'.Refuses s ks kind := by
  by_cases hkind : (s.tokenAt ks.length).kind = kind
  · obtain ⟨r', hexpect, hpast⟩ := h.expect_met hkind
    exact Or.inl ⟨r', hexpect, hkind, hpast⟩
  · exact Or.inr (h.expect_unmet hkind)

end Step

/-! ## Reading a header -/

/-- From the word `module` on, the reader either gets through to the end of the header or refuses
one of its tokens. -/
theorem readFrom_cases {r : Reader} {s : Scanner} {isPublic : Bool}
    (h : r.Past s (opening isPublic)) (start : Span) :
    (∃ name r', r.readFrom isPublic start =
        (some ⟨isPublic, name, start.join (s.tokenAt (isPublic.toNat + 2)).span⟩, r') ∧
      (s.tokenAt (isPublic.toNat + 1)).symbol = some name ∧ r'.Past s (shape isPublic)) ∨
    ∃ ks required r', r.readFrom isPublic start = (none, r') ∧
      ks ++ [required] <+: shape isPublic ∧ r'.Refuses s ks required := by
  have hshape : opening isPublic ++ [.keyword .moduleWord] ++ [.identifier] ++
      [.punctuation .semicolon] = shape isPublic := by
    simp [shape, body]
  have hlength := length_opening isPublic
  obtain ⟨r₁, hword, -, h₁⟩ | ⟨r', hword, hrefuses⟩ := h.expect_cases (.keyword .moduleWord)
  swap
  · refine Or.inr ⟨_, _, r', ?_, ?_, hrefuses⟩
    · simp only [readFrom, hword]
    · exact ⟨[.identifier, .punctuation .semicolon], by simp [← hshape]⟩
  obtain ⟨r₂, hname, hkind, h₂⟩ | ⟨r', hname, hrefuses⟩ := h₁.expect_cases .identifier
  swap
  · refine Or.inr ⟨_, _, r', ?_, ?_, hrefuses⟩
    · simp only [readFrom, hword, hname]
    · exact ⟨[.punctuation .semicolon], hshape⟩
  obtain ⟨r₃, hmark, -, h₃⟩ | ⟨r', hmark, hrefuses⟩ :=
    h₂.expect_cases (.punctuation .semicolon)
  swap
  · refine Or.inr ⟨_, _, r', ?_, ?_, hrefuses⟩
    · simp only [readFrom, hword, hname, hmark]
    · exact ⟨[], by rw [List.append_nil, hshape]⟩
  simp only [List.length_append, List.length_singleton, hlength] at hname hkind hmark
  -- an identifier always has a symbol, so nothing fails in silence here
  have hsome := s.isSome_symbol_tokenAt (isPublic.toNat + 1)
  rw [hkind] at hsome
  obtain ⟨name, hsymbol⟩ := Option.isSome_iff_exists.mp hsome
  refine Or.inl ⟨name, r₃.tell (.declared (r₃.resolve name) isPublic), ?_, hsymbol, ?_⟩
  · simp only [readFrom, hword, hname, hmark, hsymbol]
  · rw [← hshape]
    exact h₃.tell rfl

/-- The first token decides which word of the grammar is read. -/
theorem read_cases (s : Scanner) :
    ∃ isPublic, (isPublic = true ↔ (s.tokenAt 0).kind = .keyword .pubWord) ∧
      ((∃ name r', (ofScanner s).read =
          (some ⟨isPublic, name, (s.tokenAt 0).span.join (s.tokenAt (isPublic.toNat + 2)).span⟩,
            r') ∧
        (s.tokenAt (isPublic.toNat + 1)).symbol = some name ∧ r'.Past s (shape isPublic)) ∨
      ∃ ks required r', (ofScanner s).read = (none, r') ∧
        ks ++ [required] <+: shape isPublic ∧ r'.Refuses s ks required) := by
  have hpast := past_ofScanner s
  have hread : (ofScanner s).read =
      if (s.tokenAt 0).kind = .keyword .pubWord then
        (ofScanner s).consume.2.consume.2.readFrom true (s.tokenAt 0).span
      else (ofScanner s).consume.2.readFrom false (s.tokenAt 0).span := rfl
  by_cases hpub : (s.tokenAt 0).kind = .keyword .pubWord
  · rw [if_pos hpub] at hread
    rw [hread]
    exact ⟨true, iff_of_true rfl hpub, readFrom_cases (hpast.consume hpub) _⟩
  · rw [if_neg hpub] at hread
    rw [hread]
    exact ⟨false, iff_of_false Bool.false_ne_true hpub, readFrom_cases hpast _⟩

theorem Past.accepts {r : Reader} {s : Scanner} {isPublic : Bool} {name : Symbol}
    (h : r.Past s (shape isPublic))
    (hpublic : isPublic = true ↔ (s.tokenAt 0).kind = .keyword .pubWord)
    (hname : (s.tokenAt (isPublic.toNat + 1)).symbol = some name) :
    r.Accepts s
      ⟨isPublic, name, (s.tokenAt 0).span.join (s.tokenAt (isPublic.toNat + 2)).span⟩ := by
  obtain ⟨hstart, hstop⟩ := s.span_tokenAt_le (Nat.zero_le (isPublic.toNat + 2))
  refine ⟨h.begins, hpublic, hname, Span.join_of_le hstart hstop, ?_, h.errors,
    h.complains.complaintsSince_eq⟩
  rw [← length_shape]
  exact h.holds

/-- A reader over a scanner gets through if the tokens to come begin with a header, with `pub` or
without, and only then.  It then has the header from the tokens, stands in front of the token behind
it and has not complained.  Otherwise it stands in front of the first token that departs from the
grammar, and has made one complaint, about that token.  In neither case has it taken a token beyond
the one it stands in front of. -/
theorem read_grammar (s : Scanner) :
    let result := (ofScanner s).read
    (result.1.isSome = true ↔ ∃ isPublic, s.Begins (shape isPublic)) ∧
      (∀ header, result.1 = some header → result.2.Accepts s header) ∧
      (result.1 = none → ∃ isPublic ks required,
        (isPublic = true ↔ (s.tokenAt 0).kind = .keyword .pubWord) ∧
          ks ++ [required] <+: shape isPublic ∧
          (∀ b, ¬ s.kinds (ks.length + 1) <+: shape b) ∧ result.2.Refuses s ks required) := by
  intro result
  obtain ⟨isPublic, hpublic,
    ⟨name, r, hread, hname, hpast⟩ | ⟨ks, required, r, hread, hnext, hr⟩⟩ := read_cases s
  · have haccepts := hpast.accepts hpublic hname
    have hresult : result = (some _, r) := hread
    rw [hresult]
    refine ⟨iff_of_true rfl ⟨isPublic, hpast.begins⟩, ?_, nofun⟩
    rintro header ⟨⟩
    exact haccepts
  · have hdeparts := not_kinds_prefix hpublic hnext hr.begins hr.departs
    have hresult : result = (none, r) := hread
    rw [hresult]
    refine ⟨iff_of_false Bool.false_ne_true ?_, nofun, fun _ =>
      ⟨isPublic, ks, required, hpublic, hnext, hdeparts, hr⟩⟩
    rintro ⟨b, hb⟩
    have hfirst : s.kinds (b.toNat + 2 + 1) <+: shape b := by
      rw [← length_shape b, hb]
    obtain rfl : b = isPublic :=
      Bool.eq_iff_iff.mpr ((isPublic_iff_of_kinds hfirst).trans hpublic.symm)
    have hlength : ks.length + 1 ≤ (shape b).length := by
      have hle := hnext.length_le
      rwa [List.length_append] at hle
    apply hdeparts b
    rw [← hb]
    exact s.kinds_prefix hlength

/-- The stray character is the scanner's affair; what the reader complains of is the numeral. -/
example :
    let c : Compilation := .withoutLog .standard (.ofDisk .fresh fun _ => 0)
    let s := Scanner.ofText c "pub @ module 1;"
    let result := (ofScanner s).read
    result.1 = none ∧ result.2.current.span = ⟨13, 14, 0, 13⟩ ∧
      (result.2.scanner.complaintsSince s).map Diagnostic.message =
        ["expected identifier, found int literal at 1:14"] := by
  decide +kernel

end Reader

end Header

end FrontEnd
