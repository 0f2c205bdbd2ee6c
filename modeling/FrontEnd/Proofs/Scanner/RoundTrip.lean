/-
# FrontEnd.Proofs.Scanner.RoundTrip — tokens that are written out read back as they were.

A `Printout` writes a list of tokens one after the other with separators between them.  A separator
starts with a blank, and a blank ends every token there is (`Printed.reads`), so scanning a
printout finds the tokens again, whatever the separators are (`run_printout`).
-/
import FrontEnd.Proofs.Filler
import FrontEnd.Proofs.Lexeme.Printed
import FrontEnd.Proofs.Scanner.History

namespace FrontEnd

open CharClass

/-! ## Printouts -/

/-- What stands between two tokens: a blank, then blanks and complete comments. -/
inductive Separator : List Char → Prop
  | mk {c : Char} {gap : List Char} : isBlank c = true → Padding gap → Separator (c :: gap)

/-- Tokens written out with separators between them, and maybe one behind the last. -/
inductive Printout : List (Kind × String) → List Char → Prop
  | nil : Printout [] []
  | last {kind : Kind} {text : String} {written : List Char} :
      Printed kind text.toList written → Printout [(kind, text)] written
  | cons {kind : Kind} {text : String} {written gap rest : List Char}
      {tokens : List (Kind × String)} :
      Printed kind text.toList written → Separator gap → Printout tokens rest →
      Printout ((kind, text) :: tokens) (written ++ (gap ++ rest))

/-! ## A printout reads back -/

/-- A separator starts with a blank. -/
theorem Separator.head {gap : List Char} (h : Separator gap) (rest : List Char) :
    ∀ c ∈ (gap ++ rest).head?, isBlank c = true := by
  cases h with
  | mk hc _ =>
    rintro d ⟨⟩
    exact hc

theorem Separator.padding {gap : List Char} (h : Separator gap) : Padding gap := by
  cases h with
  | mk hc hgap => exact .blank hc hgap

/-- Kind and text of a token, wherever it stands. -/
def Token.Plain.entry (t : Token.Plain) : Kind × String := (t.kind, t.text)

theorem Piece.exists_plain?_of_token (place : Place) (written : List Char) {kind : Kind}
    {text : String} {payload : Option (List Char)} (h : payload.getD kind.glyphs = text.toList) :
    ∃ t, Piece.plain? ⟨place, written, .token kind payload⟩ = some t ∧ t.entry = (kind, text) := by
  have htext : String.ofList (payload.getD kind.glyphs) = text := by rw [h, String.ofList_toList]
  cases payload with
  | none => exact ⟨_, rfl, congrArg (Prod.mk kind) htext⟩
  | some word => exact ⟨_, rfl, congrArg (Prod.mk kind) htext⟩

/-- Comments do not count where they give nothing. -/
theorem filterMap_comments {α : Type} {f : Piece → Option α} {comments : List Piece}
    (hf : ∀ x, x.reading = .comment → f x = none)
    (h : ∀ x ∈ comments, x.reading = .comment) (xs : List Piece) :
    (comments ++ xs).filterMap f = xs.filterMap f := by
  have hnone : comments.filterMap f = [] := by
    rw [List.filterMap_eq_nil_iff]
    intro x hx
    exact hf x (h x hx)
  rw [List.filterMap_append, hnone, List.nil_append]

theorem Piece.plain?_of_comment (x : Piece) (h : x.reading = .comment) : x.plain? = none := by
  simp [plain?, h]

theorem Piece.report?_of_comment (x : Piece) (h : x.reading = .comment) : x.report? = none := by
  simp [report?, h]

/-- A printout splits into its tokens and comments. -/
theorem Printout.splits {tokens : List (Kind × String)} {cs : List Char}
    (h : Printout tokens cs) (p : Place) :
    ∃ xs, Splits p cs xs ∧ (xs.filterMap Piece.plain?).map Token.Plain.entry = tokens ∧
      xs.filterMap Piece.report? = [] := by
  induction h generalizing p with
  | nil => exact ⟨[], .blank (List.forall_mem_nil _), rfl, rfl⟩
  | @last kind text written hprinted =>
    have hnext : ∀ c ∈ (none : Option Char), isBlank c = true := by simp
    obtain ⟨payload, htext, hreads⟩ := hprinted.reads hnext
    let x : Piece := ⟨p, written, .token kind payload⟩
    obtain ⟨t, ht, hentry⟩ := Piece.exists_plain?_of_token p written htext
    have hsplits : Splits p (written ++ []) [x] :=
      Splits.prepend_piece (x := x) hreads (.blank (List.forall_mem_nil _))
    rw [List.append_nil] at hsplits
    refine ⟨[x], hsplits, ?_, rfl⟩
    rw [List.filterMap_cons_some ht, List.map_cons, hentry]
    rfl
  | @cons kind text written gap rest tokens hprinted hgap _ ih =>
    obtain ⟨payload, htext, hreads⟩ := hprinted.reads (hgap.head rest)
    let x : Piece := ⟨p, written, .token kind payload⟩
    obtain ⟨t, ht, hentry⟩ := Piece.exists_plain?_of_token p written htext
    obtain ⟨xs, hrest, htokens, hreports⟩ := ih (x.stop.after gap)
    -- the comments of the separator come between the token and the rest of the printout
    obtain ⟨comments, hcomments, hsplits⟩ :=
      Splits.prepend_filler (hgap.padding.filler rest.head?) hrest
    refine ⟨x :: (comments ++ xs), Splits.prepend_piece (x := x) hreads hsplits, ?_, ?_⟩
    · rw [List.filterMap_cons_some ht, filterMap_comments Piece.plain?_of_comment hcomments,
        List.map_cons, hentry, htokens]
    · rw [List.filterMap_cons_none rfl, filterMap_comments Piece.report?_of_comment hcomments,
        hreports]

namespace Scanner

/-- Scanning what was written out, behind any blanks and complete comments, finds the tokens that
were written, by kind and text, and reports nothing. -/
theorem run_printout (compilation : Compilation) {tokens : List (Kind × String)} {source : String}
    {lead text : List Char} (hlead : Padding lead) (hprintout : Printout tokens text)
    (hsource : source.toList = lead ++ text) :
    let s := ofText compilation source
    s.plainTokens.map Token.Plain.entry = tokens ++ [(.endOfText, "")] ∧ s.reports = [] := by
  intro s
  obtain ⟨xs, hxs, htokens, hreports⟩ := hprintout.splits (Place.origin.after lead)
  obtain ⟨comments, hcomments, hsplits⟩ := Splits.prepend_filler (hlead.filler text.head?) hxs
  rw [← hsource] at hsplits
  constructor
  · rw [plainTokens_eq (s := s) hsplits, filterMap_comments Piece.plain?_of_comment hcomments,
      List.map_append, htokens]
    rfl
  · rw [reports_eq (s := s) hsplits, filterMap_comments Piece.report?_of_comment hcomments,
      hreports]

/-- A keyword, an identifier, a string literal with a raw and an escaped tab, and a numeral. -/
theorem run_printout_four_tokens :
    let lead := "// lead\n".toList
    let text := "if\t/* a */x1 \"\t\\t\"\n0x1F ".toList
    let tokens : List (Kind × String) :=
      [(.keyword .ifWord, "if"), (.identifier, "x1"), (.literal .string, "\t\t"),
        (.literal .int, "0x1F")]
    let s := ofText (.withoutLog .standard (.ofDisk .fresh fun _ => 0))
      "// lead\nif\t/* a */x1 \"\t\\t\"\n0x1F "
    Padding lead ∧ Printout tokens text ∧
      "// lead\nif\t/* a */x1 \"\t\\t\"\n0x1F ".toList = lead ++ text ∧
      s.plainTokens.map Token.Plain.entry = tokens ++ [(.endOfText, "")] ∧ s.reports = [] := by
  have hlead : Padding ('/' :: '/' :: (" lead".toList ++ '\n' :: [])) := .line (by decide) .nil
  have hcomment : Comment.IsClosed " a */".toList := ⟨" a ".toList, rfl, by decide⟩
  have hgap : Separator ('\t' :: '/' :: '*' :: (" a */".toList ++ [])) :=
    .mk rfl (.block hcomment .nil)
  have hspace : Separator [' '] := .mk rfl .nil
  have hnewline : Separator ['\n'] := .mk rfl .nil
  have hkeyword : Printed (.keyword .ifWord) "if".toList "if".toList := .keyword .ifWord
  have hword : Printed .identifier "x1".toList "x1".toList := by
    refine .identifier (isWord_of_isWordStart rfl (List.all_eq_true.mp rfl)) ?_
    intro word
    cases word <;> decide
  have hstring : Printed (.literal .string) "\t\t".toList
      ('"' :: (([['\t'], ['\\', 't']] : List (List Char)).flatten ++ ['"'])) :=
    .string (.cons (.raw (by decide) (by decide) (by decide)) (.cons .tab .nil))
  have hnumeral : Printed (.literal .int) "0x1F".toList "0x1F".toList :=
    .numeral ⟨'0', "x1F".toList, rfl, Or.inl rfl⟩ (by decide) rfl
  have htokens := Printout.cons hkeyword hgap <| .cons hword hspace <|
    .cons hstring hnewline <| .cons hnumeral hspace .nil
  have hsource : "// lead\nif\t/* a */x1 \"\t\\t\"\n0x1F ".toList =
      "// lead\n".toList ++ "if\t/* a */x1 \"\t\\t\"\n0x1F ".toList := rfl
  exact ⟨hlead, htokens, hsource, run_printout _ hlead htokens hsource⟩

end Scanner

end FrontEnd
