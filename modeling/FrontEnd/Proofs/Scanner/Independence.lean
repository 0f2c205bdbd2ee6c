/-
# FrontEnd.Proofs.Scanner.Independence — what scanning gives does not depend on the compilation.

Two compilations may have interned other texts, hold other records, trace interning or not, and log
to a file, to none, or to one that takes no line.  None of this can be told from the tokens and
errors that come out of a text, the numbers of the symbols apart.

A symbol is the number of the token's text in the table at hand, and the text can be had back from
the number (`NumberedBy`).  So two tokens of a run have the same symbol just when they have the same
payload (`symbol_eq_iff`), and which symbols are the same does not depend on the table.
-/
import FrontEnd.Proofs.Scanner.Progress
import FrontEnd.Proofs.Scanner.Strings

namespace FrontEnd

namespace Token

/-- The text of a token whose kind has a payload. -/
def Plain.payload? (t : Token.Plain) : Option String :=
  if t.kind.hasPayload then some t.text else none

/-- The token has the number of its payload in the table, if it has one, and the payload can be had
back from it. -/
structure NumberedBy (table : Symbol.Table) (t : Token) : Prop where
  symbol_eq : t.symbol = (t.plain table).payload?.bind table.lookup
  payload_eq : (t.plain table).payload? = t.symbol.map table.resolve

section

variable {table : Symbol.Table} {t t' : Token}

theorem numberedBy_of_handle
    (h : if t.kind.hasPayload then
        ∃ a, t.symbol = some a ∧ table.texts.toList.idxOf? (t.text table) = some a.index
      else t.symbol = none) : t.NumberedBy table := by
  by_cases hkind : t.kind.hasPayload = true
  · rw [if_pos hkind] at h
    obtain ⟨a, hsymbol, hindex⟩ := h
    have hlookup := Symbol.Table.lookup_eq_some_iff.mpr hindex
    have hpayload : (t.plain table).payload? = some (t.text table) := if_pos hkind
    constructor
    · rw [hpayload, hsymbol]
      exact hlookup.symm
    · rw [hpayload, hsymbol, Option.map_some, Symbol.Table.resolve_of_lookup hlookup]
  · rw [if_neg hkind] at h
    have hpayload : (t.plain table).payload? = none := if_neg hkind
    constructor
    · rw [hpayload, h]
      rfl
    · rw [hpayload, h]
      rfl

/-- Symbols are the same just when payloads are. -/
theorem symbol_eq_iff (ht : t.NumberedBy table) (ht' : t'.NumberedBy table) :
    t.symbol = t'.symbol ↔ (t.plain table).payload? = (t'.plain table).payload? := by
  constructor
  · intro h
    rw [ht.payload_eq, ht'.payload_eq, h]
  · intro h
    rw [ht.symbol_eq, ht'.symbol_eq, h]

end

end Token

namespace Scanner

theorem numberedBy_of_mem_run (s : Scanner) : ∀ t ∈ s.run.1, t.NumberedBy s.run.2.strings := by
  obtain ⟨xs, hsplits⟩ := exists_splits s.cursor.place s.cursor.rest
  intro t ht
  apply Token.numberedBy_of_handle
  rw [tokens_run hsplits] at ht
  rcases List.mem_append.mp ht with hpiece | hend
  · obtain ⟨x, hx, hxt⟩ := List.mem_filterMap.mp hpiece
    obtain ⟨-, behind, -, -, hreads⟩ := hsplits.exists_reads x hx
    exact Piece.symbol_of_token? hreads (knownIn_run hsplits x hx) hxt
  · rw [List.mem_singleton.mp hend]
    exact rfl

/-- The symbol of the token at a position of a run. -/
def symbolAt (s : Scanner) (i : Nat) : Option (Option Symbol) := s.run.1[i]?.map Token.symbol

/-- Which tokens of a run have the same symbol can be told from the plain tokens. -/
theorem symbolAt_eq_iff (s : Scanner) (i j : Nat) :
    s.symbolAt i = s.symbolAt j ↔
      s.plainTokens[i]?.map Token.Plain.payload? = s.plainTokens[j]?.map Token.Plain.payload? := by
  rw [symbolAt, symbolAt, plainTokens, List.getElem?_map, List.getElem?_map]
  cases hi : s.run.1[i]? with
  | none => cases s.run.1[j]? <;> simp
  | some t =>
    cases hj : s.run.1[j]? with
    | none => simp
    | some t' =>
      have ht := s.numberedBy_of_mem_run t (List.mem_of_getElem? hi)
      have ht' := s.numberedBy_of_mem_run t' (List.mem_of_getElem? hj)
      simpa using Token.symbol_eq_iff ht ht'

/-- Scanned in any two compilations, whatever has happened in them before and whatever their
settings, journals and hosts are, a text gives tokens of the same kinds, texts and spans, the same
errors in the same order and the same count of them; and tokens that have the same symbol in one
compilation have the same symbol in the other. -/
theorem run_independent (c c' : Compilation) (source : String) :
    let s := ofText c source
    let u := ofText c' source
    s.plainTokens = u.plainTokens ∧ s.reports = u.reports ∧ s.run.2.errors = u.run.2.errors ∧
      ∀ i j, s.symbolAt i = s.symbolAt j ↔ u.symbolAt i = u.symbolAt j := by
  intro s u
  obtain ⟨xs, hsplits⟩ := exists_splits .origin source.toList
  have hplain : s.plainTokens = u.plainTokens := by
    rw [plainTokens_eq (s := s) hsplits, plainTokens_eq (s := u) hsplits]
    rfl
  have hreports : s.reports = u.reports := by
    rw [reports_eq (s := s) hsplits, reports_eq (s := u) hsplits]
  refine ⟨hplain, hreports, ?_, ?_⟩
  · rw [errors_run, errors_run, hreports]
    rfl
  · intro i j
    rw [symbolAt_eq_iff, symbolAt_eq_iff, hplain]

/-- The symbols themselves do depend on what was interned before. -/
example :
    let c : Compilation := .withoutLog .standard (.ofDisk .fresh fun _ => 0)
    let symbols (c : Compilation) := (List.range 3).map (ofText c "a b a").symbolAt
    symbols c = [some (some ⟨0⟩), some (some ⟨1⟩), some (some ⟨0⟩)] ∧
      symbols (c.intern "b").2 = [some (some ⟨1⟩), some (some ⟨0⟩), some (some ⟨1⟩)] := by
  decide +kernel

end Scanner

end FrontEnd
