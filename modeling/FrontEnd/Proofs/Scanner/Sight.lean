/-
# FrontEnd.Proofs.Scanner.Sight — a run as a reader of the text sees it.

To a reader, a token is a kind and a text at some line and column, and a report is a message there;
bytes are not seen, nor are comments.  So two texts can give the same to see although they are not
the same text.  They do if their pieces have the same sights, comments left out, and if they end in
the same line and column (`sightings_eq`).

Places are `Aligned` if they have the same line and column.  The same text leads on from aligned
places to aligned places, and falls into pieces of the same sights there (`Splits.realign`).
-/
import FrontEnd.Proofs.Scanner.History

namespace FrontEnd

/-! ## Places -/

/-- The places have the same line and column. -/
structure Place.Aligned (p q : Place) : Prop where
  line : p.line = q.line
  column : p.column = q.column

namespace Place.Aligned

variable {p q : Place}

theorem refl (p : Place) : p.Aligned p := ⟨rfl, rfl⟩

theorem step (h : p.Aligned q) (c : Char) : (p.step c).Aligned (q.step c) := by
  obtain ⟨hline, hcolumn⟩ := h
  by_cases hc : c = '\n'
  · exact ⟨by simp [Place.step, hc, hline], by simp [Place.step, hc]⟩
  · exact ⟨by simp [Place.step, hc, hline], by simp [Place.step, hc, hcolumn]⟩

theorem after (h : p.Aligned q) (cs : List Char) : (p.after cs).Aligned (q.after cs) := by
  induction cs generalizing p q with
  | nil => exact h
  | cons c cs ih => exact ih (h.step c)

end Place.Aligned

/-! ## Tokens and reports -/

/-- A token as it is seen. -/
structure Token.Sighting where
  kind : Kind
  text : String
  line : Nat
  column : Nat
  deriving DecidableEq, Repr

/-- A report as it is seen. -/
structure Diagnostic.Sighting where
  code : Option Diagnostic.Code
  message : String
  /-- Line and column. -/
  position : Option (Nat × Nat)
  deriving DecidableEq, Repr

/-- What is seen of a token. -/
def Token.Plain.sighting (t : Token.Plain) : Token.Sighting :=
  ⟨t.kind, t.text, t.span.line, t.span.column⟩

/-- What is seen of a report. -/
def Diagnostic.Content.sighting (r : Diagnostic.Content) : Diagnostic.Sighting :=
  ⟨r.code, r.message, r.span.map fun s => (s.line, s.column)⟩

namespace Scanner

/-- The tokens of a run as they are seen, the end token last. -/
def tokenSightings (s : Scanner) : List Token.Sighting :=
  s.plainTokens.map Token.Plain.sighting

/-- The errors that a run reports, as they are seen. -/
def reportSightings (s : Scanner) : List Diagnostic.Sighting :=
  s.reports.map Diagnostic.Content.sighting

end Scanner

/-! ## Pieces -/

/-- What is seen of a piece: what it reads as, and where it starts by line and column. -/
structure Sight where
  reading : Reading
  line : Nat
  column : Nat
  deriving DecidableEq, Repr

namespace Sight

/-- The token that is seen. -/
def token? (x : Sight) : Option Token.Sighting :=
  match x.reading with
  | .token kind (some text) => some ⟨kind, .ofList text, x.line, x.column⟩
  | .token kind none => some ⟨kind, kind.spelling, x.line, x.column⟩
  | _ => none

/-- The report that is seen. -/
def report? (x : Sight) : Option Diagnostic.Sighting :=
  match x.reading with
  | .malformed e => some (e.content (.point 0 x.line x.column)).sighting
  | _ => none

end Sight

namespace Piece

/-- What is seen of a piece, unless it is a comment. -/
def sight? (x : Piece) : Option Sight :=
  if x.reading = .comment then none else some ⟨x.reading, x.place.line, x.place.column⟩

theorem sight?_of_comment {x : Piece} (h : x.reading = .comment) : x.sight? = none := if_pos h

/-- Pieces that read the same and start in the same line and column give the same sight. -/
theorem sight?_eq {x y : Piece} (hreading : y.reading = x.reading)
    (hplace : y.place.Aligned x.place) : y.sight? = x.sight? := by
  unfold sight?
  rw [hreading, hplace.line, hplace.column]

theorem map_sighting_plain? (x : Piece) :
    x.plain?.map Token.Plain.sighting = x.sight?.bind Sight.token? := by
  obtain ⟨place, text, reading⟩ := x
  cases reading with
  | comment => rfl
  | malformed e => rfl
  | token kind payload => cases payload <;> rfl

theorem map_sighting_report? (x : Piece) :
    x.report?.map Diagnostic.Content.sighting = x.sight?.bind Sight.report? := by
  obtain ⟨place, text, reading⟩ := x
  cases reading <;> rfl

end Piece

/-- From a place in the same line and column, a text falls into pieces of the same sights. -/
theorem Splits.realign {p q : Place} {cs : List Char} {xs : List Piece} (h : Splits p cs xs)
    (hq : q.Aligned p) :
    ∃ ys, Splits q cs ys ∧ ys.filterMap Piece.sight? = xs.filterMap Piece.sight? := by
  induction h generalizing q with
  | blank hblanks => exact ⟨[], .blank hblanks, rfl⟩
  | @piece blanks rest x xs p hblanks hplace hreads _ ih =>
    let y : Piece := ⟨q.after blanks, x.text, x.reading⟩
    have hy : y.place.Aligned x.place := by
      rw [hplace]
      exact hq.after blanks
    obtain ⟨ys, hys, hsame⟩ := ih (hy.after x.text)
    refine ⟨y :: ys, .piece (x := y) hblanks rfl hreads hys, ?_⟩
    have hsight : y.sight? = x.sight? := Piece.sight?_eq rfl hy
    rw [List.filterMap_cons, List.filterMap_cons, hsight, hsame]

/-! ## Runs -/

namespace Scanner

section

variable {s u : Scanner} {xs ys : List Piece}

theorem tokenSightings_eq (h : Splits s.cursor.place s.cursor.rest xs) :
    s.tokenSightings = (xs.filterMap Piece.sight?).filterMap Sight.token? ++
      [⟨.endOfText, "", s.endToken.span.line, s.endToken.span.column⟩] := by
  have hpieces : (fun x : Piece => x.plain?.map Token.Plain.sighting) =
      fun x => x.sight?.bind Sight.token? := funext Piece.map_sighting_plain?
  rw [tokenSightings, plainTokens_eq h, List.map_append, List.map_filterMap, hpieces,
    List.filterMap_filterMap]
  rfl

theorem reportSightings_eq (h : Splits s.cursor.place s.cursor.rest xs) :
    s.reportSightings = (xs.filterMap Piece.sight?).filterMap Sight.report? := by
  have hpieces : (fun x : Piece => x.report?.map Diagnostic.Content.sighting) =
      fun x => x.sight?.bind Sight.report? := funext Piece.map_sighting_report?
  rw [reportSightings, reports_eq h, List.map_filterMap, hpieces, List.filterMap_filterMap]

/-- Texts whose pieces have the same sights give the same to see. -/
theorem sightings_eq (hs : Splits s.cursor.place s.cursor.rest xs)
    (hu : Splits u.cursor.place u.cursor.rest ys)
    (hsights : ys.filterMap Piece.sight? = xs.filterMap Piece.sight?)
    (hend : (u.cursor.place.after u.cursor.rest).Aligned
      (s.cursor.place.after s.cursor.rest)) :
    u.tokenSightings = s.tokenSightings ∧ u.reportSightings = s.reportSightings := by
  obtain ⟨hline, hcolumn⟩ := hend
  have hspan : u.endToken.span.line = s.endToken.span.line ∧
      u.endToken.span.column = s.endToken.span.column := ⟨hline, hcolumn⟩
  constructor
  · rw [tokenSightings_eq hs, tokenSightings_eq hu, hsights, hspan.1, hspan.2]
  · rw [reportSightings_eq hs, reportSightings_eq hu, hsights]

end

end Scanner

end FrontEnd
