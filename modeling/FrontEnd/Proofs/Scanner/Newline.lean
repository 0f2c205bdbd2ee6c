/-
# FrontEnd.Proofs.Scanner.Newline — a newline cuts a text in two.

Outside a block comment, scanning a text up to a newline and scanning on behind it are two separate
runs: no piece but an unclosed block comment tells a newline from the end of the text
(`Lexeme.Reads.at_newline`).  So two texts with a newline between them split into the pieces of the
first and those of the second, moved down (`Splits.append_newline`).
-/
import FrontEnd.Proofs.Place
import FrontEnd.Proofs.Scanner.History
import FrontEnd.Proofs.Text.Slice

namespace FrontEnd

open CharClass

/-! ## Pieces moved down -/

namespace Piece

/-- The piece so many bytes and lines further on. -/
def shift (bytes lines : Nat) (x : Piece) : Piece := ⟨x.place.shift bytes lines, x.text, x.reading⟩

theorem stop_shift (bytes lines : Nat) (x : Piece) :
    (x.shift bytes lines).stop = x.stop.shift bytes lines :=
  Place.after_shift bytes lines x.place x.text

theorem span_shift (bytes lines : Nat) (x : Piece) :
    (x.shift bytes lines).span = x.span.shift bytes lines := by
  rw [span, stop_shift]
  rfl

end Piece

/-- The token so many bytes and lines further on. -/
def Token.Plain.shift (bytes lines : Nat) (t : Token.Plain) : Token.Plain :=
  ⟨t.kind, t.text, t.span.shift bytes lines⟩

theorem Piece.plain?_shift (bytes lines : Nat) (x : Piece) :
    (x.shift bytes lines).plain? = x.plain?.map (Token.Plain.shift bytes lines) := by
  have hspan := x.span_shift bytes lines
  obtain ⟨place, text, reading⟩ := x
  cases reading with
  | comment => rfl
  | malformed e => rfl
  | token kind payload =>
    cases payload with
    | none => exact congrArg (fun s => some (Token.Plain.mk kind kind.spelling s)) hspan
    | some word => exact congrArg (fun s => some (Token.Plain.mk kind (.ofList word) s)) hspan

/-- A text that starts further on splits into the same pieces further on. -/
theorem Splits.shift {p : Place} {cs : List Char} {xs : List Piece} (h : Splits p cs xs)
    (bytes lines : Nat) : Splits (p.shift bytes lines) cs (xs.map (Piece.shift bytes lines)) := by
  induction h with
  | blank hblanks => exact .blank hblanks
  | @piece blanks rest x xs p hblanks hplace hreads _ ih =>
    refine .piece (x := x.shift bytes lines) hblanks ?_ hreads ?_
    · rw [Place.after_shift, ← hplace]
      rfl
    · rw [Piece.stop_shift]
      exact ih

/-! ## Two texts with a newline between them -/

theorem Splits.append_newline {p : Place} {a b : List Char} {xs ys : List Piece}
    (ha : Splits p a xs) (hopen : ∀ x ∈ xs, x.reading ≠ .malformed .unterminatedComment)
    (hb : Splits ((p.after a).step '\n') b ys) : Splits p (a ++ '\n' :: b) (xs ++ ys) := by
  induction ha with
  | @blank p blanks hblanks =>
    have hnewline : ∀ c ∈ blanks ++ ['\n'], isBlank c = true := by
      intro c hc
      rcases List.mem_append.mp hc with hmem | hmem
      · exact hblanks c hmem
      · rw [List.mem_singleton.mp hmem]
        rfl
    have hplace : p.after (blanks ++ ['\n']) = (p.after blanks).step '\n' := by
      rw [Place.after_append]
      rfl
    rw [← hplace] at hb
    have hsplits := Splits.prepend_blanks hnewline hb
    rwa [List.append_assoc] at hsplits
  | @piece blanks rest x xs p hblanks hplace hreads _ ih =>
    obtain ⟨hx, hxs⟩ := List.forall_mem_cons.mp hopen
    have hstop : p.after (blanks ++ (x.text ++ rest)) = x.stop.after rest := by
      rw [Place.after_append, Place.after_append, ← hplace, Piece.stop]
    rw [hstop] at hb
    -- Only a piece at the very end of the first text sees another character behind it now.
    have hreads' : Lexeme.Reads x.text (rest ++ '\n' :: b).head? x.reading := by
      cases rest with
      | nil => exact hreads.at_newline hx
      | cons c cs => exact hreads
    rw [List.append_assoc, List.append_assoc]
    exact .piece hblanks hplace hreads' (ih hxs hb)

namespace Piece

/-- What is wrong with a malformed piece, and where. -/
def error? (x : Piece) : Option (LexicalError × Span) :=
  match x.reading with
  | .malformed e => some (e, x.span)
  | _ => none

theorem report?_eq (x : Piece) : x.report? = x.error?.map fun e => e.1.content e.2 := by
  obtain ⟨place, text, reading⟩ := x
  cases reading <;> rfl

theorem report?_shift (bytes lines : Nat) (x : Piece) :
    (x.shift bytes lines).report? =
      x.error?.map fun e => e.1.content (e.2.shift bytes lines) := by
  have hspan := x.span_shift bytes lines
  obtain ⟨place, text, reading⟩ := x
  cases reading with
  | comment => rfl
  | malformed e => exact congrArg (fun s => some (e.content s)) hspan
  | token kind payload => rfl

end Piece

namespace Scanner

/-- Unless the first of two texts ends inside a block comment, scanning both with a newline between
them gives the tokens and reports of the first, without its end token, and then those of the
second, moved down by the bytes and lines in front of it.  A report that has moved names its new
position; what is wrong, and with it the code, stays the same. -/
theorem run_append_newline (c c₁ c₂ : Compilation) (a b : String)
    (hclosed : ∀ r ∈ (ofText c₁ a).reports, r.code ≠ some LexicalError.unterminatedComment.code) :
    let bytes := a.utf8ByteSize + 1
    let lines := a.toList.count '\n' + 1
    (ofText c (a ++ "\n" ++ b)).plainTokens =
        (ofText c₁ a).plainTokens.dropLast ++
          (ofText c₂ b).plainTokens.map (Token.Plain.shift bytes lines) ∧
      ∃ errors : List (LexicalError × Span),
        (ofText c₂ b).reports = errors.map (fun e => e.1.content e.2) ∧
        (ofText c (a ++ "\n" ++ b)).reports =
          (ofText c₁ a).reports ++ errors.map fun e => e.1.content (e.2.shift bytes lines) := by
  intro bytes lines
  obtain ⟨xs, hxs⟩ := exists_splits .origin a.toList
  obtain ⟨ys, hys⟩ := exists_splits .origin b.toList
  have hopen : ∀ x ∈ xs, x.reading ≠ .malformed .unterminatedComment := by
    intro x hx hreading
    have hreport : LexicalError.unterminatedComment.content x.span ∈ (ofText c₁ a).reports := by
      rw [reports_eq (s := ofText c₁ a) hxs]
      exact List.mem_filterMap.mpr ⟨x, hx, by simp [Piece.report?, hreading]⟩
    exact hclosed _ hreport rfl
  have hplace : (Place.origin.after a.toList).step '\n' = Place.origin.shift bytes lines := by
    rw [Place.step_newline, Utf8.size_toList]
  have hsource : (a ++ "\n" ++ b).toList = a.toList ++ '\n' :: b.toList := by simp
  have hboth : Splits .origin (a ++ "\n" ++ b).toList (xs ++ ys.map (Piece.shift bytes lines)) := by
    rw [hsource]
    exact hxs.append_newline hopen (hplace ▸ hys.shift bytes lines)
  have hend : (ofText c (a ++ "\n" ++ b)).endToken.span =
      (ofText c₂ b).endToken.span.shift bytes lines := by
    show Span.atPlace (Place.origin.after (a ++ "\n" ++ b).toList) =
      (Span.atPlace (Place.origin.after b.toList)).shift bytes lines
    rw [hsource, Place.after_append, Place.after_cons, hplace, Place.after_shift]
    rfl
  have hmoved {α β : Type} {f : Piece → Option α} {g : Piece → Option β} {k : β → α}
      (h : ∀ y, f (y.shift bytes lines) = (g y).map k) :
      (ys.map (Piece.shift bytes lines)).filterMap f = (ys.filterMap g).map k := by
    rw [List.filterMap_map, List.map_filterMap]
    exact List.filterMap_congr fun y _ => h y
  refine ⟨?_, ys.filterMap Piece.error?, ?_, ?_⟩
  · rw [plainTokens_eq (s := ofText c _) hboth, plainTokens_eq (s := ofText c₁ a) hxs,
      plainTokens_eq (s := ofText c₂ b) hys, List.filterMap_append,
      hmoved (Piece.plain?_shift bytes lines), List.dropLast_concat, List.map_append, hend,
      List.append_assoc]
    rfl
  · rw [reports_eq (s := ofText c₂ b) hys, List.map_filterMap]
    exact List.filterMap_congr fun y _ => y.report?_eq
  · rw [reports_eq (s := ofText c _) hboth, reports_eq (s := ofText c₁ a) hxs,
      List.filterMap_append, hmoved (Piece.report?_shift bytes lines)]

/-- The first text ends inside a string literal, the second starts with a stray character. -/
theorem run_append_newline_open_string :
    let c : Compilation := .withoutLog .standard (.ofDisk .fresh fun _ => 0)
    (∀ r ∈ (ofText c "x \"ab").reports, r.code ≠ some LexicalError.unterminatedComment.code) ∧
      (ofText c ("x \"ab" ++ "\n" ++ "@ y")).plainTokens =
        (ofText c "x \"ab").plainTokens.dropLast ++
          (ofText c "@ y").plainTokens.map (Token.Plain.shift 6 1) ∧
      ∃ errors : List (LexicalError × Span),
        (ofText c "@ y").reports = errors.map (fun e => e.1.content e.2) ∧
        (ofText c ("x \"ab" ++ "\n" ++ "@ y")).reports =
          (ofText c "x \"ab").reports ++ errors.map fun e => e.1.content (e.2.shift 6 1) := by
  intro c
  have hclosed : ∀ r ∈ (ofText c "x \"ab").reports,
      r.code ≠ some LexicalError.unterminatedComment.code := by decide +kernel
  exact ⟨hclosed, run_append_newline c c c "x \"ab" "@ y" hclosed⟩

end Scanner

end FrontEnd
