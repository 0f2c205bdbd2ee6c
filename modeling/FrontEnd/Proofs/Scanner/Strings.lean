/-
# FrontEnd.Proofs.Scanner.Strings — the string table behind a run.

Of all the pieces of a text only those that give a token with a payload touch the string table, and
each interns just its payload.  So a run interns the payloads of its tokens, in order and nothing
else (`strings_run`), and the table at its end can be told from the table at its start and the
tokens that came out (`run_strings`).
-/
import FrontEnd.Proofs.Scanner.History
import FrontEnd.Proofs.Symbol.Interning

namespace FrontEnd

namespace Piece

/-- The text a piece carries is the text of its token, if the kind of the token has a payload. -/
theorem map_text_plain? {x : Piece} {next : Option Char}
    (h : Lexeme.Reads x.text next x.reading) :
    (x.plain?.filter fun t => t.kind.hasPayload).map Token.Plain.text = x.payloadText? := by
  obtain ⟨place, text, reading⟩ := x
  cases reading with
  | comment => rfl
  | malformed e => rfl
  | token kind payload =>
    have hsome := h.isSome_payload
    cases payload with
    | none =>
      have hkind : kind.hasPayload = false := hsome.symm
      simp [plain?, payloadText?, payload?, hkind]
    | some word =>
      have hkind : kind.hasPayload = true := hsome.symm
      simp [plain?, payloadText?, payload?, hkind]

/-- The handle of a token is the one that the table has for its text, if its kind has a payload. -/
theorem symbol_of_token? {table : Symbol.Table} {x : Piece} {next : Option Char} {t : Token}
    (hreads : Lexeme.Reads x.text next x.reading) (hx : x.KnownIn table)
    (h : x.token? table = some t) :
    if t.kind.hasPayload then
      ∃ a, t.symbol = some a ∧ table.texts.toList.idxOf? (t.text table) = some a.index
    else t.symbol = none := by
  obtain ⟨place, text, reading⟩ := x
  cases reading with
  | comment => cases h
  | malformed e => cases h
  | token kind payload =>
    have hsome := hreads.isSome_payload
    have hkind : t.kind = kind := (congrArg Token.kind (Option.some.inj h)).symm
    have hsymbol := (congrArg Token.symbol (Option.some.inj h)).symm
    rw [hkind, ← hsome]
    cases payload with
    | none => exact hsymbol
    | some word =>
      obtain ⟨a, ha⟩ := hx word rfl
      have hhandle : t.symbol = some a := hsymbol.trans ha
      have htext : t.text table = .ofList word := by
        simp [Token.text, hhandle, Symbol.Table.resolve_of_lookup ha]
      refine ⟨a, hhandle, ?_⟩
      rw [htext]
      exact Symbol.Table.lookup_eq_some_iff.mp ha

end Piece

namespace Scanner

/-- A run interns the payloads of its pieces one after the other. -/
theorem strings_run {s : Scanner} {xs : List Piece}
    (h : Splits s.cursor.place s.cursor.rest xs) :
    s.run.2.strings = s.strings.internAll (xs.filterMap Piece.payloadText?) := by
  induction xs generalizing s with
  | nil =>
    have hnext := next_of_scan_some (scan_of_splits_nil h)
    rw [run_of_end (by rw [hnext]; rfl), hnext]
    rfl
  | cons x xs ih =>
    obtain ⟨s', hsplits, -, hrun, hstrings, -, -⟩ := history_of_splits_cons h
    rw [hrun, ih hsplits, hstrings, ← Symbol.Table.internAll_append]
    cases hx : x.payloadText? with
    | none =>
      rw [List.filterMap_cons_none hx]
      rfl
    | some text =>
      rw [List.filterMap_cons_some hx]
      rfl

/-- The payloads of the tokens of a run. -/
def payloads (s : Scanner) : List String :=
  (s.plainTokens.filter fun t => t.kind.hasPayload).map Token.Plain.text

theorem payloads_eq {s : Scanner} {xs : List Piece}
    (h : Splits s.cursor.place s.cursor.rest xs) :
    s.payloads = xs.filterMap Piece.payloadText? := by
  have hpieces : ∀ x ∈ xs,
      (x.plain?.filter fun t => t.kind.hasPayload).map Token.Plain.text = x.payloadText? := by
    intro x hx
    obtain ⟨-, behind, -, -, hreads⟩ := h.exists_reads x hx
    exact Piece.map_text_plain? hreads
  have hend : [(⟨.endOfText, "", s.endToken.span⟩ : Token.Plain)].filter
      (fun t => t.kind.hasPayload) = [] := rfl
  rw [payloads, plainTokens_eq h, List.filter_append, hend, List.append_nil,
    List.filter_filterMap, List.map_filterMap, List.filterMap_congr hpieces]

/-- The table behind a run has the texts of the table in front of it, and then the payloads of the
tokens that it lacked, each once, in the order in which they first came.  New ones count as misses,
and all other payloads as hits.  A token has the number of its text in that table for a symbol if
its kind has a payload, and none otherwise.  Scanning the same text once more, at once or later in
the compilation, gives the same tokens, symbols included, and adds no text. -/
theorem run_strings (c : Compilation) (source : String) :
    let s := ofText c source
    let table := s.run.2.strings
    let new := c.strings.newTexts s.payloads
    table.texts.toList = c.strings.texts.toList ++ new ∧
      table.misses = c.strings.misses + new.length ∧
      table.hits + new.length = c.strings.hits + s.payloads.length ∧
      (∀ t ∈ s.run.1,
        if t.kind.hasPayload then
          ∃ a, t.symbol = some a ∧ table.texts.toList.idxOf? (t.text table) = some a.index
        else t.symbol = none) ∧
      ∀ later : Compilation, table.Extends later.strings →
        let again := ofText later source
        again.run.1 = s.run.1 ∧ again.run.2.strings.texts = later.strings.texts := by
  intro s table new
  obtain ⟨xs, hsplits⟩ := exists_splits .origin source.toList
  have hpayloads : s.payloads = xs.filterMap Piece.payloadText? := payloads_eq (s := s) hsplits
  have hknown : ∀ x ∈ xs, x.KnownIn table := knownIn_run (s := s) hsplits
  have hrun : table = c.strings.internAll s.payloads := by
    rw [hpayloads]
    exact strings_run (s := s) hsplits
  obtain ⟨htexts, hmisses, hhits⟩ := c.strings.internAll_spec s.payloads
  rw [← hrun] at htexts hmisses hhits
  refine ⟨htexts, hmisses, hhits, ?_, ?_⟩
  · intro t ht
    rw [tokens_run (s := s) hsplits] at ht
    rcases List.mem_append.mp ht with hpiece | hend
    · obtain ⟨x, hx, hxt⟩ := List.mem_filterMap.mp hpiece
      obtain ⟨-, behind, -, -, hreads⟩ := hsplits.exists_reads x hx
      exact Piece.symbol_of_token? hreads (hknown x hx) hxt
    · rw [List.mem_singleton.mp hend]
      exact rfl
  · intro later hlater again
    -- every payload is in the table already when the second run starts
    have hheld : ∀ text ∈ s.payloads, text ∈ later.strings.texts.toList := by
      rw [hpayloads]
      intro text htext
      obtain ⟨x, hx, hxt⟩ := List.mem_filterMap.mp htext
      obtain ⟨word, hword, rfl⟩ := Option.map_eq_some_iff.mp hxt
      obtain ⟨a, ha⟩ := hknown x hx word hword
      exact hlater.subset (Symbol.Table.mem_of_lookup ha)
    have hagain : again.run.2.strings = later.strings.internAll s.payloads := by
      rw [hpayloads]
      exact strings_run (s := again) hsplits
    have hsame : again.run.2.strings.texts = later.strings.texts := by
      have hspec := (later.strings.internAll_spec s.payloads).1
      rw [Symbol.Table.newTexts_eq_nil hheld, List.append_nil, ← hagain] at hspec
      exact Array.toList_inj.mp hspec
    refine ⟨?_, hsame⟩
    have hextends : table.Extends again.run.2.strings := by
      rw [Symbol.Table.Extends, hsame]
      exact hlater
    have htokens : ∀ x ∈ xs, x.token? again.run.2.strings = x.token? table := by
      intro x hx
      rw [← Piece.finding?_bind_token?, Piece.finding?_of_extends hextends (hknown x hx),
        Piece.finding?_bind_token?]
    rw [tokens_run (s := again) hsplits, tokens_run (s := s) hsplits,
      List.filterMap_congr htokens]
    rfl

/-- A string literal says again what an identifier has said, the keyword and the malformed numeral
leave no trace, and the text is scanned a second time when another one has been scanned. -/
theorem run_strings_twice :
    let c : Compilation := .withoutLog .standard (.ofDisk .fresh fun _ => 0)
    let s := ofText c "if ab 12 0x \"ab\""
    let between := (ofText s.run.2.compilation "cd").run.2
    let again := ofText between.compilation "if ab 12 0x \"ab\""
    s.payloads = ["ab", "12", "ab"] ∧ s.run.2.strings = ⟨#["ab", "12"], 1, 2⟩ ∧
      s.run.2.strings.Extends between.strings ∧ between.strings.texts = #["ab", "12", "cd"] ∧
      again.run.1 = s.run.1 ∧ again.run.2.strings.texts = between.strings.texts := by
  intro c s between again
  have hextends : s.run.2.strings.Extends between.strings :=
    (ofText s.run.2.compilation "cd").grows_run.strings
  obtain ⟨-, -, -, -, hagain⟩ := run_strings c "if ab 12 0x \"ab\""
  exact ⟨by decide +kernel, by decide +kernel, hextends, by decide +kernel,
    hagain between.compilation hextends⟩

end Scanner

end FrontEnd
