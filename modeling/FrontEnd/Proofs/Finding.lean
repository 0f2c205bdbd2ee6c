/-
# FrontEnd.Proofs.Finding — what a piece of text brings forth.

A piece gives a token, is reported, or passes in silence when it is a comment.  What it gives can be
told from the piece alone, up to two things: the handle of a token's text depends on the string
table, and the time of a report on the clock.  `Token.Plain` and `Diagnostic.Content` leave these
out; a table that knows the text of a token always gives it the same plain token.
-/
import FrontEnd.Diagnostic
import FrontEnd.Proofs.Lexeme.Error
import FrontEnd.Proofs.Piece
import FrontEnd.Proofs.Symbol.Growth
import FrontEnd.Token

namespace FrontEnd

/-- What a diagnostic says, apart from when it was made. -/
structure Diagnostic.Content where
  level : Diagnostic.Level
  message : String
  code : Option Diagnostic.Code
  span : Option Span
  deriving DecidableEq, Repr

/-- The content of a diagnostic. -/
def Diagnostic.content (d : Diagnostic) : Diagnostic.Content := ⟨d.level, d.message, d.code, d.span⟩

/-- What is reported of a malformed piece. -/
def LexicalError.content (e : LexicalError) (span : Span) : Diagnostic.Content :=
  ⟨.error, e.message ++ " at " ++ span.display, some e.code, some span⟩

/-- A report names its error, and where it is: no other error, and no other place, has it. -/
theorem LexicalError.content_inj {e e' : LexicalError} {span span' : Span} :
    e.content span = e'.content span' ↔ e = e' ∧ span = span' := by
  constructor
  · intro h
    obtain rfl : span = span' := Option.some.inj (congrArg Diagnostic.Content.span h)
    have hmessage : e.message ++ " at " ++ span.display = e'.message ++ " at " ++ span.display :=
      congrArg Diagnostic.Content.message h
    rw [String.append_left_inj, String.append_left_inj] at hmessage
    exact ⟨message_injective hmessage, rfl⟩
  · rintro ⟨rfl, rfl⟩
    rfl

/-- A token without its handle. -/
structure Token.Plain where
  kind : Kind
  text : String
  span : Span
  deriving DecidableEq, Repr

/-- A token as it reads in a table. -/
def Token.plain (table : Symbol.Table) (t : Token) : Token.Plain := ⟨t.kind, t.text table, t.span⟩

/-- What a run brings forth. -/
inductive Finding where
  | token (t : Token)
  | report (r : Diagnostic.Content)
  deriving DecidableEq, Repr

namespace Finding

/-- A diagnostic as a finding. -/
def ofReport (d : Diagnostic) : Finding := .report d.content

/-- The token found, if it is one. -/
def token? : Finding → Option Token
  | .token t => some t
  | .report _ => none

/-- The report made, if it is one. -/
def report? : Finding → Option Diagnostic.Content
  | .token _ => none
  | .report r => some r

/-- The stretch of text a finding is about. -/
def span? : Finding → Option Span
  | .token t => some t.span
  | .report r => r.span

theorem filterMap_token?_ofReport (ds : List Diagnostic) :
    (ds.map ofReport).filterMap token? = [] := by
  rw [List.filterMap_map, List.filterMap_eq_nil_iff]
  intro d _
  rfl

theorem filterMap_report?_ofReport (ds : List Diagnostic) :
    (ds.map ofReport).filterMap report? = ds.map Diagnostic.content := by
  rw [List.filterMap_map]
  exact congrFun List.filterMap_eq_map ds

end Finding

namespace Piece

/-- The characters a token piece carries with it. -/
def payload? (x : Piece) : Option (List Char) :=
  match x.reading with
  | .token _ payload => payload
  | _ => none

/-- The text that a token piece carries with it, as it goes into a string table. -/
def payloadText? (x : Piece) : Option String := x.payload?.map String.ofList

/-- The token a piece gives, with its handle in `table`. -/
def token? (table : Symbol.Table) (x : Piece) : Option Token :=
  match x.reading with
  | .token kind payload =>
    some ⟨kind, payload.bind fun text => table.lookup (.ofList text), x.span⟩
  | _ => none

/-- The token a piece gives, without a handle. -/
def plain? (x : Piece) : Option Token.Plain :=
  match x.reading with
  | .token kind (some text) => some ⟨kind, .ofList text, x.span⟩
  | .token kind none => some ⟨kind, kind.spelling, x.span⟩
  | _ => none

/-- What is reported of a piece. -/
def report? (x : Piece) : Option Diagnostic.Content :=
  match x.reading with
  | .malformed e => some (e.content x.span)
  | _ => none

/-- What a piece brings forth: a token, a report, or nothing when it is a comment. -/
def finding? (table : Symbol.Table) (x : Piece) : Option Finding :=
  (x.token? table).map .token <|> x.report?.map .report

theorem finding?_bind_token? (table : Symbol.Table) (x : Piece) :
    (x.finding? table).bind Finding.token? = x.token? table := by
  obtain ⟨place, text, reading⟩ := x
  cases reading <;> rfl

theorem finding?_bind_report? (table : Symbol.Table) (x : Piece) :
    (x.finding? table).bind Finding.report? = x.report? := by
  obtain ⟨place, text, reading⟩ := x
  cases reading <;> rfl

/-- Whatever a piece brings forth covers that piece. -/
theorem span?_of_finding? {table : Symbol.Table} {x : Piece} {f : Finding}
    (h : x.finding? table = some f) : f.span? = some x.span := by
  obtain ⟨place, text, reading⟩ := x
  cases reading with
  | comment => cases h
  | token kind payload =>
    obtain rfl := Option.some.inj h
    rfl
  | malformed e =>
    obtain rfl := Option.some.inj h
    rfl

theorem span_of_plain? {x : Piece} {t : Token.Plain} (h : x.plain? = some t) :
    t.span = x.span := by
  obtain ⟨place, text, reading⟩ := x
  cases reading with
  | comment => cases h
  | malformed e => cases h
  | token kind payload =>
    cases payload with
    | none =>
      obtain rfl := Option.some.inj h
      rfl
    | some word =>
      obtain rfl := Option.some.inj h
      rfl

theorem exists_error_of_report? {x : Piece} {r : Diagnostic.Content} (h : x.report? = some r) :
    ∃ e, x.reading = .malformed e ∧ r = e.content x.span := by
  obtain ⟨place, text, reading⟩ := x
  cases reading with
  | comment => cases h
  | malformed e =>
    obtain rfl := Option.some.inj h
    exact ⟨e, rfl, rfl⟩
  | token kind payload => cases h

theorem span_of_report? {x : Piece} {r : Diagnostic.Content} (h : x.report? = some r) :
    r.span = some x.span := by
  obtain ⟨e, -, rfl⟩ := exists_error_of_report? h
  rfl

/-- No piece gives the end token. -/
theorem isEnd_of_token? {table : Symbol.Table} {x : Piece} {next : Option Char} {t : Token}
    (h : Lexeme.Reads x.text next x.reading) (ht : x.token? table = some t) :
    t.isEnd = false := by
  obtain ⟨place, text, reading⟩ := x
  cases reading with
  | comment => cases ht
  | malformed e => cases ht
  | token kind payload =>
    obtain rfl := Option.some.inj ht
    exact beq_eq_false_iff_ne.mpr h.ne_endOfText

/-- Only a comment brings forth nothing. -/
theorem finding?_eq_none_iff {table : Symbol.Table} {x : Piece} :
    x.finding? table = none ↔ x.reading = .comment := by
  obtain ⟨place, text, reading⟩ := x
  cases reading <;> simp [finding?, token?, report?]

/-! ## Tables that know the text of a token -/

/-- The table has a handle for the text that the piece carries, if it carries one. -/
def KnownIn (x : Piece) (table : Symbol.Table) : Prop :=
  ∀ text ∈ x.payload?, ∃ a, table.lookup (.ofList text) = some a

section Known

variable {table table' : Symbol.Table} {x : Piece} {t : Token}

theorem KnownIn.of_extends (hx : x.KnownIn table) (h : table.Extends table') :
    x.KnownIn table' := by
  intro text htext
  obtain ⟨a, ha⟩ := hx text htext
  exact ⟨a, Symbol.Table.lookup_of_extends h ha⟩

/-- A larger table gives a piece the same finding. -/
theorem finding?_of_extends (h : table.Extends table') (hx : x.KnownIn table) :
    x.finding? table' = x.finding? table := by
  obtain ⟨place, text, reading⟩ := x
  cases reading with
  | comment => rfl
  | malformed e => rfl
  | token kind payload =>
    cases payload with
    | none => rfl
    | some word =>
      obtain ⟨a, ha⟩ := hx word rfl
      simp [finding?, token?, ha, Symbol.Table.lookup_of_extends h ha]

/-- A token whose payload the table knows reads as the piece it came from. -/
theorem map_plain_token? (hx : x.KnownIn table) :
    (x.token? table).map (Token.plain table) = x.plain? := by
  obtain ⟨place, text, reading⟩ := x
  cases reading with
  | comment => rfl
  | malformed e => rfl
  | token kind payload =>
    cases payload with
    | none => rfl
    | some word =>
      obtain ⟨a, ha⟩ := hx word rfl
      simp [token?, plain?, Token.plain, Token.text, ha, Symbol.Table.resolve_of_lookup ha]

/-- A token reads the same in every table that is larger than the one it has its handle from. -/
theorem plain_of_extends (h : table.Extends table') (hx : x.KnownIn table)
    (ht : x.token? table = some t) : t.plain table' = t.plain table := by
  have hsame : x.token? table' = x.token? table := by
    rw [← finding?_bind_token?, finding?_of_extends h hx, finding?_bind_token?]
  have hbefore := map_plain_token? hx
  have hafter := map_plain_token? (hx.of_extends h)
  rw [ht] at hbefore
  rw [hsame, ht] at hafter
  exact Option.some.inj (hafter.trans hbefore.symm)

/-- What a token of a piece says, in a table that knows the payload. -/
theorem exists_reading_of_token? (hx : x.KnownIn table) (h : x.token? table = some t) :
    ∃ payload, x.reading = .token t.kind payload ∧ t.span = x.span ∧
      t.symbol.isSome = payload.isSome ∧ (t.text table).toList = payload.getD t.kind.glyphs := by
  obtain ⟨place, text, reading⟩ := x
  cases reading with
  | comment => cases h
  | malformed e => cases h
  | token kind payload =>
    obtain rfl := Option.some.inj h
    refine ⟨payload, rfl, rfl, ?_⟩
    cases payload with
    | none => exact ⟨rfl, String.toList_ofList⟩
    | some word =>
      obtain ⟨a, ha⟩ := hx word rfl
      simp [Token.text, ha, Symbol.Table.resolve_of_lookup ha]

end Known

end Piece

end FrontEnd
