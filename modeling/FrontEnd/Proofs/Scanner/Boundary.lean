/-
# FrontEnd.Proofs.Scanner.Boundary — behind a token the scanner starts afresh.

What a token reads as depends on the character behind it, but a blank there will do for every token
(`Lexeme.Reads.before_blank`).  So where a token ends, a text can be cut in two: its first part falls
into the same pieces in front of its own rest and in front of any text that starts with a blank
(`Cursor.Cuts`).  What stands behind the cut falls into the same pieces wherever it stands
(`Splits.relocate`), and kinds, texts and error codes can be told from the pieces without their
places (`entries_eq`, `errorCodes_eq`).
-/
import FrontEnd.Proofs.Scanner.RoundTrip
import FrontEnd.Proofs.Scanner.Stream

namespace FrontEnd

open CharClass

/-! ## Pieces without their places -/

/-- What a piece reads as, wherever it stands. -/
def Piece.lexeme (x : Piece) : Lexeme := ⟨x.text, x.reading⟩

/-- A text falls into the same pieces wherever it stands. -/
theorem Splits.relocate {p : Place} {cs : List Char} {xs : List Piece} (h : Splits p cs xs)
    (q : Place) : ∃ ys, Splits q cs ys ∧ ys.map Piece.lexeme = xs.map Piece.lexeme := by
  induction h generalizing q with
  | blank hblanks => exact ⟨[], .blank hblanks, rfl⟩
  | @piece blanks rest x xs p hblanks _ hreads _ ih =>
    let y : Piece := ⟨q.after blanks, x.text, x.reading⟩
    obtain ⟨ys, hys, hsame⟩ := ih y.stop
    refine ⟨y :: ys, .piece (x := y) hblanks rfl hreads hys, ?_⟩
    rw [List.map_cons, List.map_cons, hsame]
    rfl

/-- Kind and text of the token that a piece reads as, if it is one. -/
def Lexeme.kindAndText? (x : Lexeme) : Option (Kind × String) :=
  match x.reading with
  | .token kind (some text) => some (kind, .ofList text)
  | .token kind none => some (kind, kind.spelling)
  | _ => none

/-- What is wrong with a piece, if it is malformed. -/
def Lexeme.error? (x : Lexeme) : Option LexicalError :=
  match x.reading with
  | .malformed e => some e
  | _ => none

theorem Piece.map_entry_plain? (x : Piece) :
    x.plain?.map Token.Plain.entry = x.lexeme.kindAndText? := by
  obtain ⟨place, text, reading⟩ := x
  cases reading with
  | comment => rfl
  | malformed e => rfl
  | token kind payload => cases payload <;> rfl

theorem Piece.map_code_report? (x : Piece) :
    x.report?.map Diagnostic.Content.code = x.lexeme.error?.map fun e => some e.code := by
  obtain ⟨place, text, reading⟩ := x
  cases reading <;> rfl

/-! ## Cutting a text -/

/-- What can take the place of the text behind a token: a text that starts with the same character,
one that starts with a blank, or none at all. -/
def Seam (old new : List Char) : Prop :=
  new.head? = old.head? ∨ ∀ c ∈ new.head?, isBlank c = true

theorem Seam.prepend {old new : List Char} (h : Seam old new) (text : List Char) :
    Seam (text ++ old) (text ++ new) := by
  cases text with
  | nil => exact h
  | cons c cs => exact Or.inl rfl

/-- Blanks put in at a seam. -/
theorem seam_blanks {blanks : List Char} (h : ∀ c ∈ blanks, isBlank c = true) (rest : List Char) :
    Seam rest (blanks ++ rest) := by
  cases blanks with
  | nil => exact Or.inl rfl
  | cons c cs =>
    right
    rintro d ⟨⟩
    exact h c List.mem_cons_self

/-- A token reads the same when the text behind it is replaced. -/
theorem Lexeme.Reads.of_seam {text old new : List Char} {kind : Kind} {payload : Option (List Char)}
    (h : Lexeme.Reads text old.head? (.token kind payload)) (hseam : Seam old new) :
    Lexeme.Reads text new.head? (.token kind payload) := by
  obtain hsame | hblank := hseam
  · rw [hsame]
    exact h
  · exact h.before_blank hblank

/-- The later cursor has consumed `text`, which falls into the pieces `xs`, and goes on doing so when
something else takes the place of what is left. -/
structure Cursor.Cuts (c : Cursor) (text : List Char) (xs : List Piece) (c' : Cursor) : Prop where
  passes : c.Passes text c'
  splits {rest : List Char} {zs : List Piece} :
    Seam c'.rest rest → Splits c'.place rest zs → Splits c.place (text ++ rest) (xs ++ zs)

namespace Cursor

variable {c c' c'' : Cursor} {text more : List Char} {xs ys : List Piece}

theorem Cuts.refl (c : Cursor) : c.Cuts [] [] c := by
  refine ⟨.refl c, ?_⟩
  intro rest zs _ h
  exact h

theorem Cuts.trans (h : c.Cuts text xs c') (h' : c'.Cuts more ys c'') :
    c.Cuts (text ++ more) (xs ++ ys) c'' := by
  refine ⟨h.passes.trans h'.passes, ?_⟩
  intro rest zs hseam hrest
  have hseam' : Seam c'.rest (more ++ rest) := by
    rw [h'.passes.rest]
    exact hseam.prepend more
  have hsplits := h.splits hseam' (h'.splits hseam hrest)
  rwa [← List.append_assoc, ← List.append_assoc] at hsplits

/-- One piece more in front, if what follows it may change as it can behind the cut. -/
theorem Cuts.piece {blanks word : List Char} {reading : Reading} (h : c'.Cuts text xs c'')
    {start : Cursor} (hblanks : c.Passes blanks start) (hblank : ∀ d ∈ blanks, isBlank d = true)
    (hword : start.Passes word c')
    (hreads : ∀ rest, Seam c''.rest rest → Lexeme.Reads word (text ++ rest).head? reading) :
    c.Cuts (blanks ++ (word ++ text)) (⟨start.place, word, reading⟩ :: xs) c'' := by
  refine ⟨hblanks.trans (hword.trans h.passes), ?_⟩
  intro rest zs hseam hrest
  have hsplits := h.splits hseam hrest
  rw [List.append_assoc, List.append_assoc]
  rw [hword.place] at hsplits
  exact .piece (x := ⟨start.place, word, reading⟩) hblank hblanks.place (hreads rest hseam) hsplits

end Cursor

namespace Scanner

/-- A pass that does not come to the end passes over blanks and one piece, which reads as the token
that is handed out, if one is. -/
theorem exists_piece_of_scan {s s' : Scanner} {token : Option Token} (h : s.scan = (token, s'))
    (hend : ∀ t, token = some t → t.isEnd = false) :
    ∃ blanks start word reading, s.cursor.Passes blanks start ∧
      (∀ c ∈ blanks, isBlank c = true) ∧ word ≠ [] ∧ start.Passes word s'.cursor ∧
      Lexeme.Reads word s'.cursor.rest.head? reading ∧
      ∀ t, token = some t → ∃ payload, reading = .token t.kind payload := by
  obtain ⟨blanks, start, hblanks, hblank, ⟨-, hscan⟩ | ⟨word, stop, reading, hword, hpass, hreads,
    hscan⟩⟩ := s.scan_cases
  · rw [hscan] at h
    cases hend _ (congrArg Prod.fst h).symm
  · rw [hscan] at h
    obtain rfl : s'.cursor = stop := cursor_of_accept h
    refine ⟨blanks, start, word, reading, hblanks, hblank, hword, hpass, hreads, ?_⟩
    rintro t rfl
    obtain ⟨payload, hreading, -⟩ := exists_payload_of_accept (congrArg Prod.fst h)
    exact ⟨payload, hreading⟩

/-- Behind a token other than the end token, the text can be cut. -/
theorem exists_cuts_next {s : Scanner} (h : s.next.1.isEnd = false) :
    ∃ text xs, text ≠ [] ∧ s.cursor.Cuts text xs s.next.2.cursor := by
  fun_induction next s with
  | case1 s t s' hscan =>
    obtain ⟨blanks, start, word, reading, hblanks, hblank, hword, hpass, hreads, htoken⟩ :=
      exists_piece_of_scan hscan (by rintro t ⟨⟩; exact h)
    obtain ⟨payload, rfl⟩ := htoken t rfl
    have hcuts := (Cursor.Cuts.refl s'.cursor).piece hblanks hblank hpass
      fun rest hseam => hreads.of_seam hseam
    refine ⟨_, _, ?_, hcuts⟩
    simp [hword]
  | case2 s s' hscan ih =>
    obtain ⟨text, xs, htext, hcuts⟩ := ih h
    obtain ⟨blanks, start, word, reading, hblanks, hblank, hword, hpass, hreads, -⟩ :=
      exists_piece_of_scan hscan (by rintro t ⟨⟩)
    -- the token is still to come, so the character behind this piece stays what it is
    have hreads' : ∀ rest, Seam s'.next.2.cursor.rest rest →
        Lexeme.Reads word (text ++ rest).head? reading := by
      intro rest _
      obtain ⟨c, cs, rfl⟩ := List.exists_cons_of_ne_nil htext
      rw [hcuts.passes.rest] at hreads
      exact hreads
    refine ⟨_, _, ?_, hcuts.piece hblanks hblank hpass hreads'⟩
    simp [hword]

theorem exists_cuts_after {s : Scanner} {k : Nat} (h : ∀ i < k, (s.tokenAt i).isEnd = false) :
    ∃ text xs, s.cursor.Cuts text xs (s.after k).cursor := by
  induction k with
  | zero => exact ⟨[], [], .refl s.cursor⟩
  | succ k ih =>
    obtain ⟨text, xs, hcuts⟩ := ih fun i hi => h i (Nat.lt_succ_of_lt hi)
    obtain ⟨more, ys, -, hnext⟩ := exists_cuts_next (h k (Nat.lt_succ_self k))
    exact ⟨_, _, hcuts.trans hnext⟩

/-! ## Kinds, texts and error codes of a run -/

/-- The tokens of a run by kind and text, the end token last. -/
def entries (s : Scanner) : List (Kind × String) := s.plainTokens.map Token.Plain.entry

/-- The codes of the errors that a run reports. -/
def errorCodes (s : Scanner) : List (Option Diagnostic.Code) :=
  s.reports.map Diagnostic.Content.code

/-- The first `n` tokens by kind and text. -/
def firstEntries (s : Scanner) (n : Nat) : List (Kind × String) :=
  (List.range n).map fun i => ((s.tokenAt i).plain (s.after n).strings).entry

/-- The codes of the errors reported on the way to the first `n` tokens. -/
def firstErrorCodes (s : Scanner) (n : Nat) : List (Option Diagnostic.Code) :=
  ((s.after n).reportsSince s).map Diagnostic.code

theorem entries_eq {s : Scanner} {xs : List Piece} (h : Splits s.cursor.place s.cursor.rest xs) :
    s.entries = (xs.map Piece.lexeme).filterMap Lexeme.kindAndText? ++ [(.endOfText, "")] := by
  have hpieces : (fun x : Piece => x.plain?.map Token.Plain.entry) =
      fun x => x.lexeme.kindAndText? := funext Piece.map_entry_plain?
  rw [entries, plainTokens_eq h, List.map_append, List.map_filterMap, hpieces, List.filterMap_map]
  rfl

theorem errorCodes_eq {s : Scanner} {xs : List Piece}
    (h : Splits s.cursor.place s.cursor.rest xs) :
    s.errorCodes = ((xs.map Piece.lexeme).filterMap Lexeme.error?).map fun e => some e.code := by
  have hpieces : (fun x : Piece => x.report?.map Diagnostic.Content.code) =
      fun x => x.lexeme.error?.map fun e => some e.code := funext Piece.map_code_report?
  rw [errorCodes, reports_eq h, List.map_filterMap, hpieces, List.map_filterMap,
    List.filterMap_map]
  rfl

/-- A token reads the same in every later table. -/
theorem plain_next_of_extends {s : Scanner} {table : Symbol.Table}
    (h : s.next.2.strings.Extends table) :
    s.next.1.plain table = s.next.1.plain s.next.2.strings := by
  fun_induction next s with
  | case1 s t s' hscan =>
    obtain ⟨xs, hsplits⟩ := exists_splits s.cursor.place s.cursor.rest
    cases xs with
    | nil =>
      rw [scan_of_splits_nil hsplits] at hscan
      obtain ⟨⟨⟩, -⟩ := Prod.mk.inj hscan
      rfl
    | cons x xs =>
      obtain ⟨rest, -, -, haccept⟩ := scan_of_splits_cons hsplits
      let s₀ : Scanner := { s with cursor := ⟨s.cursor.source, rest, x.stop⟩ }
      have htoken := fst_accept s₀ x
      have hknown := knownIn_accept s₀ x
      have hs₀ : s₀.accept x.reading x.span = (some t, s') := haccept.symm.trans hscan
      rw [hs₀] at htoken hknown
      exact Piece.plain_of_extends h hknown htoken.symm
  | case2 s s' hscan ih => exact ih h

theorem grows_after (s : Scanner) (m n : Nat) : (s.after m).Grows (s.after (m + n)) := by
  induction n with
  | zero => exact .refl _
  | succ n ih => exact ih.trans (grows_next _)

theorem plain_tokenAt_of_extends {s : Scanner} {i n : Nat} {table : Symbol.Table} (hi : i < n)
    (h : (s.after n).strings.Extends table) :
    (s.tokenAt i).plain table = (s.tokenAt i).plain (s.after n).strings := by
  have hgrows := s.grows_after (i + 1) (n - (i + 1))
  rw [Nat.add_sub_cancel' hi] at hgrows
  have hthen := plain_next_of_extends (s := s.after i) hgrows.strings
  have hlater := plain_next_of_extends (s := s.after i) (hgrows.strings.trans h)
  exact hlater.trans hthen.symm

/-- A run hands out the tokens of the calls in front of the end token, and goes on from there. -/
theorem run_eq_after {s : Scanner} {n : Nat} (h : ∀ i < n, (s.tokenAt i).isEnd = false) :
    s.run = ((List.range n).map s.tokenAt ++ (s.after n).run.1, (s.after n).run.2) := by
  induction n with
  | zero => rfl
  | succ n ih =>
    have hnext := run_of_not_end (s := s.after n) (h n (Nat.lt_succ_self n))
    rw [ih fun i hi => h i (Nat.lt_succ_of_lt hi), hnext, List.range_succ, List.map_append,
      List.append_assoc]
    rfl

/-- The run up to a token and the run behind it. -/
theorem entries_eq_append {s : Scanner} {n : Nat} (h : ∀ i < n, (s.tokenAt i).isEnd = false) :
    s.entries = s.firstEntries n ++ (s.after n).entries := by
  have hfirst : (List.range n).map (fun i => ((s.tokenAt i).plain (s.after n).run.2.strings).entry) =
      s.firstEntries n := by
    apply List.map_congr_left
    intro i hi
    rw [plain_tokenAt_of_extends (List.mem_range.mp hi) (s.after n).grows_run.strings]
  rw [entries, plainTokens, run_eq_after h, List.map_append, List.map_append, List.map_map,
    List.map_map, ← hfirst]
  rfl

theorem errorCodes_eq_append {s : Scanner} {n : Nat} (h : ∀ i < n, (s.tokenAt i).isEnd = false) :
    s.errorCodes = s.firstErrorCodes n ++ (s.after n).errorCodes := by
  have hgrows : s.Grows (s.after n) := by
    have hfirst := s.grows_after 0 n
    rwa [Nat.zero_add] at hfirst
  rw [errorCodes, reports, run_eq_after h, reportsSince_trans hgrows (s.after n).grows_run,
    List.map_append, List.map_append, List.map_map]
  rfl

/-- A text is cut in two where a scanner stands after some tokens, none of them the end token.  With
blanks put in at the cut, or none, scanning the whole gives those tokens and then what a fresh
scanner gives for the second part alone, by kind and text, and likewise the error codes.  So blanks
at the cut make no difference. -/
theorem run_insert_blanks (c : Compilation) (source : String) (k : Nat)
    (hk : ∀ i < k, ((ofText c source).tokenAt i).isEnd = false) :
    let s := ofText c source
    let p := (s.after k).cursor.place.offset
    ∃ front back : String,
      Utf8.take? p source.toList = some front.toList ∧
      Utf8.drop? p source.toList = some back.toList ∧
      ∀ (c' c'' : Compilation) (blanks : String), (∀ ch ∈ blanks.toList, isBlank ch = true) →
        let u := ofText c' (front ++ blanks ++ back)
        let v := ofText c'' back
        u.entries = s.firstEntries k ++ v.entries ∧
          u.errorCodes = s.firstErrorCodes k ++ v.errorCodes ∧
          u.entries = s.entries ∧ u.errorCodes = s.errorCodes := by
  intro s p
  obtain ⟨text, xs, hcuts⟩ := exists_cuts_after hk
  obtain ⟨zs, hzs⟩ := exists_splits (s.after k).cursor.place (s.after k).cursor.rest
  let rest := (s.after k).cursor.rest
  have hsource : source.toList = text ++ rest := hcuts.passes.rest
  have hoffset : p = Utf8.size text := by
    show (s.after k).cursor.place.offset = _
    rw [hcuts.passes.offset_eq]
    exact Nat.zero_add _
  have hwhole : Splits .origin source.toList (xs ++ zs) := by
    rw [hsource]
    exact hcuts.splits (Or.inl rfl) hzs
  refine ⟨.ofList text, .ofList rest, ?_, ?_, ?_⟩
  · rw [hsource, hoffset, String.toList_ofList]
    exact Utf8.take?_size_append text rest
  · rw [hsource, hoffset, String.toList_ofList]
    exact Utf8.drop?_size_append text rest
  · intro c' c'' blanks hblanks u v
    -- the second part on its own, and the second part behind the blanks
    obtain ⟨ys, hys, hfresh⟩ := hzs.relocate .origin
    obtain ⟨ms, hms, hmoved⟩ := hzs.relocate ((s.after k).cursor.place.after blanks.toList)
    have hback : Splits .origin (String.ofList rest).toList ys := by
      rw [String.toList_ofList]
      exact hys
    have hinserted : Splits .origin (String.ofList text ++ blanks ++ String.ofList rest).toList
        (xs ++ ms) := by
      have hsplits : Splits .origin (text ++ (blanks.toList ++ rest)) (xs ++ ms) :=
        hcuts.splits (seam_blanks hblanks rest) (hms.prepend_blanks hblanks)
      simpa using hsplits
    have hsame : (xs ++ ms).map Piece.lexeme = (xs ++ zs).map Piece.lexeme := by
      rw [List.map_append, hmoved, List.map_append]
    have hentries : u.entries = s.entries := by
      rw [entries_eq (s := u) hinserted, entries_eq (s := s) hwhole, hsame]
    have hcodes : u.errorCodes = s.errorCodes := by
      rw [errorCodes_eq (s := u) hinserted, errorCodes_eq (s := s) hwhole, hsame]
    refine ⟨?_, ?_, hentries, hcodes⟩
    · rw [hentries, entries_eq_append hk, entries_eq hzs, entries_eq (s := v) hback, hfresh]
    · rw [hcodes, errorCodes_eq_append hk, errorCodes_eq hzs, errorCodes_eq (s := v) hback, hfresh]

/-- The cut goes between two signs that stand side by side, behind a stray character. -/
theorem run_insert_blanks_less_equal :
    let c : Compilation := .withoutLog .standard (.ofDisk .fresh fun _ => 0)
    let s := ofText c "a @<==b"
    let u := ofText c ("a @<=" ++ " \x00" ++ "=b")
    (∀ i < 2, (s.tokenAt i).isEnd = false) ∧ (∀ ch ∈ " \x00".toList, isBlank ch = true) ∧
      (s.after 2).cursor.place.offset = 5 ∧
      s.firstEntries 2 = [(.identifier, "a"), (.operator .lessEqual, "<=")] ∧
      u.entries = s.firstEntries 2 ++ (ofText c "=b").entries ∧
      u.errorCodes = s.firstErrorCodes 2 ++ (ofText c "=b").errorCodes ∧
      u.entries = s.entries ∧ u.errorCodes = s.errorCodes := by
  intro c s u
  have hk : ∀ i < 2, (s.tokenAt i).isEnd = false := by decide +kernel
  have hblanks : ∀ ch ∈ " \x00".toList, isBlank ch = true := List.all_eq_true.mp rfl
  have hp : (s.after 2).cursor.place.offset = 5 := by decide +kernel
  obtain ⟨front, back, hfront, hback, hrun⟩ := run_insert_blanks c "a @<==b" 2 hk
  have hcut : Utf8.take? 5 "a @<==b".toList = some front.toList := hp ▸ hfront
  have hcut' : Utf8.drop? 5 "a @<==b".toList = some back.toList := hp ▸ hback
  obtain rfl : "a @<=" = front := String.toList_inj.mp (Option.some.inj hcut)
  obtain rfl : "=b" = back := String.toList_inj.mp (Option.some.inj hcut')
  exact ⟨hk, hblanks, hp, by decide +kernel, hrun c c " \x00" hblanks⟩

end Scanner

end FrontEnd
