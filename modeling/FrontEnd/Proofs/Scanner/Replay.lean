/-
# FrontEnd.Proofs.Scanner.Replay — the same text gives the same tokens again.

In front of a token there is a gap of blanks, comments and malformed pieces, and then the word that
the token is read from.  A scanner that comes upon the same gap and word hands out the same token, by
kind and text, whatever its compilation and wherever it stands (`Hands`); what is behind the word may
have been replaced as at a seam, and the gap may be missing (`exists_hands`).

The same goes for some tokens in a row (`Replayable`).  It is proved from the last token to the first,
as what is behind a token has to be known to be replaceable before the token is read.  Without the
gap in front of the first one, the tokens come out from the start of the text on
(`exists_replayable_succ`).
-/
import FrontEnd.Proofs.Scanner.Boundary

namespace FrontEnd.Scanner

open CharClass

/-- Kind and text of the token behind the next `n` tokens. -/
def entryAt (s : Scanner) (n : Nat) : Kind × String :=
  ((s.tokenAt n).plain (s.after (n + 1)).strings).entry

/-! ## One token -/

/-- The next token is `word`, with `gap` in front of it, and reads as `entry` has it. -/
structure Hands (s : Scanner) (gap word : List Char) (entry : Kind × String) : Prop where
  passes : s.cursor.Passes (gap ++ word) s.next.2.cursor
  span : s.next.1.span = .between (s.cursor.place.after gap) s.next.2.cursor.place
  entry : s.entryAt 0 = entry

/-- A word that reads as a token is handed out as that token. -/
theorem hands_of_reads {s : Scanner} {blanks word behind : List Char} {kind : Kind}
    {payload : Option (List Char)} (hrest : s.cursor.rest = blanks ++ (word ++ behind))
    (hblanks : ∀ c ∈ blanks, isBlank c = true)
    (hreads : Lexeme.Reads word behind.head? (.token kind payload)) :
    s.Hands blanks word (kind, .ofList (payload.getD kind.glyphs)) := by
  let x : Piece := ⟨s.cursor.place.after blanks, word, .token kind payload⟩
  let s₀ : Scanner := { s with cursor := ⟨s.cursor.source, behind, x.stop⟩ }
  let s' : Scanner := (s₀.accept x.reading x.span).2
  let t : Token := ⟨kind, payload.bind fun text => s'.strings.lookup (.ofList text), x.span⟩
  have haccept : s.scan = s₀.accept x.reading x.span := scan_of_reads hrest hblanks hreads
  have hscan : s.scan = (some t, s') := haccept.trans (Prod.ext (fst_accept s₀ x) rfl)
  have hcursor : s'.cursor = s₀.cursor := cursor_accept s₀ x.reading x.span
  have hplain : some (t.plain s'.strings) = x.plain? :=
    Piece.map_plain_token? (knownIn_accept s₀ x)
  obtain ⟨t', ht', hentry⟩ := Piece.exists_plain?_of_token x.place word
    (String.toList_ofList (l := payload.getD kind.glyphs)).symm
  have hnext := next_of_scan_some hscan
  refine ⟨?_, ?_, ?_⟩
  · rw [hnext]
    show s.cursor.Passes (blanks ++ word) s'.cursor
    rw [hcursor]
    exact ⟨rfl, by rw [hrest, List.append_assoc], (Place.after_append _ _ _).symm⟩
  · rw [hnext]
    show x.span = .between x.place s'.cursor.place
    rw [hcursor]
    rfl
  · show (s.next.1.plain s.next.2.strings).entry = _
    rw [hnext]
    show (t.plain s'.strings).entry = _
    rw [Option.some.inj (hplain.trans ht'), hentry]

/-- What is passed over without a token lengthens the gap. -/
theorem Hands.skip {s s' : Scanner} {text gap word : List Char} {entry : Kind × String}
    (hscan : s.scan = (none, s')) (hpasses : s.cursor.Passes text s'.cursor)
    (h : s'.Hands gap word entry) : s.Hands (text ++ gap) word entry := by
  have hnext := next_of_scan_none hscan
  refine ⟨?_, ?_, ?_⟩
  · rw [hnext, List.append_assoc]
    exact hpasses.trans h.passes
  · rw [hnext, Place.after_append, ← hpasses.place]
    exact h.span
  · show (s.next.1.plain s.next.2.strings).entry = entry
    rw [hnext]
    exact h.entry

/-- Whether a piece is a token is a matter of how it reads. -/
theorem fst_accept_eq_none {s : Scanner} {reading : Reading} {span : Span}
    (h : (s.accept reading span).1 = none) (u : Scanner) (span' : Span) :
    (u.accept reading span').1 = none := by
  cases reading with
  | comment => rfl
  | malformed e => rfl
  | token kind payload => cases payload <;> cases h

/-- A pass over a piece that is no token. -/
theorem exists_scan_eq_none {s : Scanner} {blanks piece behind : List Char} {reading : Reading}
    (hrest : s.cursor.rest = blanks ++ (piece ++ behind))
    (hblanks : ∀ c ∈ blanks, isBlank c = true)
    (hreads : Lexeme.Reads piece behind.head? reading)
    (hnone : ∀ (u : Scanner) (span : Span), (u.accept reading span).1 = none) :
    ∃ s', s.scan = (none, s') ∧ s.cursor.Passes (blanks ++ piece) s'.cursor ∧
      s'.cursor.rest = behind := by
  have hscan := scan_of_reads hrest hblanks hreads
  refine ⟨_, hscan.trans (Prod.ext (hnone _ _) rfl), ?_⟩
  rw [cursor_accept]
  exact ⟨⟨rfl, by rw [hrest, List.append_assoc], (Place.after_append _ _ _).symm⟩, rfl⟩

/-- In front of a token other than the end token there are a gap and a word.  Wherever they stand, a
scanner hands out that token, and for the word alone as well. -/
theorem exists_hands {s : Scanner} (h : s.next.1.isEnd = false) :
    ∃ gap word entry, word ≠ [] ∧ s.cursor.rest = gap ++ (word ++ s.next.2.cursor.rest) ∧
      ∀ rest, Seam s.next.2.cursor.rest rest → ∀ u : Scanner,
        (u.cursor.rest = gap ++ (word ++ rest) → u.Hands gap word entry) ∧
          (u.cursor.rest = word ++ rest → u.Hands [] word entry) := by
  fun_induction next s with
  | case1 s t s' hscan =>
    obtain ⟨blanks, start, word, reading, hblanks, hblank, hword, hpass, hreads, htoken⟩ :=
      exists_piece_of_scan hscan (by rintro t ⟨⟩; exact h)
    obtain ⟨payload, rfl⟩ := htoken t rfl
    refine ⟨blanks, word, (t.kind, .ofList (payload.getD t.kind.glyphs)), hword,
      (hblanks.trans hpass).rest.trans (List.append_assoc ..), ?_⟩
    intro rest hseam u
    have hreads' := hreads.of_seam hseam
    exact ⟨fun hu => hands_of_reads hu hblank hreads',
      fun hu => hands_of_reads hu (List.forall_mem_nil _) hreads'⟩
  | case2 s s' hscan ih =>
    obtain ⟨gap, word, entry, hword, hrest, hhands⟩ := ih h
    obtain ⟨blanks, start, hblanks, hblank, ⟨-, hend⟩ | ⟨piece, stop, reading, -, hpass, hreads,
      haccept⟩⟩ := s.scan_cases
    · rw [hscan] at hend
      cases congrArg Prod.fst hend
    · rw [hscan] at haccept
      obtain rfl : s'.cursor = stop := cursor_of_accept haccept.symm
      have hnone := fst_accept_eq_none (congrArg Prod.fst haccept.symm)
      refine ⟨blanks ++ piece ++ gap, word, entry, hword, ?_, ?_⟩
      · rw [(hblanks.trans hpass).rest, hrest, List.append_assoc (blanks ++ piece)]
      · intro rest hseam u
        refine ⟨?_, (hhands rest hseam u).2⟩
        intro hu
        -- the word is still to come, so the character behind this piece stays what it is
        have hreads' : Lexeme.Reads piece (gap ++ (word ++ rest)).head? reading := by
          obtain ⟨c, cs, rfl⟩ := List.exists_cons_of_ne_nil hword
          rw [hrest] at hreads
          cases gap <;> exact hreads
        have hu' : u.cursor.rest = blanks ++ (piece ++ (gap ++ (word ++ rest))) := by
          simpa only [List.append_assoc] using hu
        obtain ⟨u', huscan, hupasses, hurest⟩ := exists_scan_eq_none hu' hblank hreads' hnone
        exact .skip huscan hupasses ((hhands rest hseam u').1 hurest)

/-! ## Some tokens -/

/-- From here on the scanner goes through `text` and hands out tokens that read as the first `n`
tokens of `s`. -/
structure Replays (u : Scanner) (text : List Char) (s : Scanner) (n : Nat) : Prop where
  passes : u.cursor.Passes text (u.after n).cursor
  entries : ∀ i < n, u.entryAt i = s.entryAt i

theorem entryAt_after (s : Scanner) (m n : Nat) : (s.after m).entryAt n = s.entryAt (m + n) := by
  rw [entryAt, tokenAt_after, after_add, entryAt, Nat.add_assoc]

theorem Hands.replays {u s : Scanner} {gap word text : List Char} {n : Nat}
    (hfirst : u.Hands gap word (s.entryAt 0)) (hothers : (u.after 1).Replays text (s.after 1) n) :
    u.Replays (gap ++ (word ++ text)) s (n + 1) := by
  constructor
  · have hpasses := hfirst.passes.trans hothers.passes
    rwa [after_add, Nat.add_comm, List.append_assoc] at hpasses
  · intro i hi
    cases i with
    | zero => exact hfirst.entry
    | succ i =>
      have hentry := hothers.entries i (Nat.lt_of_succ_lt_succ hi)
      rwa [entryAt_after, entryAt_after, Nat.add_comm] at hentry

/-- What is left starts with `text`, which gives the first `n` tokens.  It gives them wherever it
stands, if what follows it there can take the place of what follows it here. -/
structure Replayable (s : Scanner) (text : List Char) (n : Nat) : Prop where
  rest : s.cursor.rest = text ++ (s.after n).cursor.rest
  replays {rest : List Char} {u : Scanner} :
    Seam (s.after n).cursor.rest rest → u.cursor.rest = text ++ rest → u.Replays text s n

theorem replayable_zero (s : Scanner) : s.Replayable [] 0 := by
  refine ⟨rfl, ?_⟩
  intro rest u _ _
  exact ⟨.refl _, fun i hi => absurd hi (Nat.not_lt_zero i)⟩

/-- One token more in front.  Without the gap, the tokens come out from the very start on. -/
theorem exists_replayable_succ {s : Scanner} {text : List Char} {n : Nat}
    (h : s.next.1.isEnd = false) (hothers : (s.after 1).Replayable text n) :
    ∃ gap word, s.Replayable (gap ++ (word ++ text)) (n + 1) ∧
      (s.tokenAt 0).span.start = (s.cursor.place.after gap).offset ∧
      ∀ {rest : List Char} {u : Scanner}, Seam (s.after (n + 1)).cursor.rest rest →
        u.cursor.rest = word ++ (text ++ rest) → u.Replays (word ++ text) s (n + 1) ∧
          (u.tokenAt 0).span = .between u.cursor.place (u.after 1).cursor.place := by
  obtain ⟨gap, word, entry, -, hrest, hhands⟩ := exists_hands h
  obtain ⟨htext, hreplays⟩ := hothers
  rw [after_add, Nat.add_comm] at htext
  simp only [after_add, Nat.add_comm 1 n] at hreplays
  have hsame := (hhands _ (Or.inl rfl) s).1 hrest
  obtain rfl : s.entryAt 0 = entry := hsame.entry
  have hseam {rest : List Char} (h : Seam (s.after (n + 1)).cursor.rest rest) :
      Seam s.next.2.cursor.rest (text ++ rest) := by
    have hprepend := h.prepend text
    rwa [← htext] at hprepend
  refine ⟨gap, word, ⟨?_, ?_⟩, ?_, ?_⟩
  · rw [hrest, List.append_assoc, List.append_assoc, ← htext]
    rfl
  · intro rest u hfollows hu
    rw [List.append_assoc, List.append_assoc] at hu
    have hfirst := (hhands _ (hseam hfollows) u).1 hu
    rw [← List.append_assoc] at hu
    exact hfirst.replays (hreplays hfollows (hfirst.passes.rest_eq hu))
  · exact congrArg Span.start hsame.span
  · intro rest u hfollows hu
    have hfirst := (hhands _ (hseam hfollows) u).2 hu
    exact ⟨hfirst.replays (hreplays hfollows (hfirst.passes.rest_eq hu)), hfirst.span⟩

theorem isEnd_tokenAt_after {s : Scanner} {m n : Nat}
    (h : ∀ i < n + m, (s.tokenAt i).isEnd = false) :
    ∀ i < n, ((s.after m).tokenAt i).isEnd = false := by
  intro i hi
  rw [tokenAt_after, Nat.add_comm]
  exact h (i + m) (Nat.add_lt_add_right hi m)

/-- Tokens in front of the end token come out again wherever their text stands. -/
theorem exists_replayable {s : Scanner} {n : Nat} (h : ∀ i < n, (s.tokenAt i).isEnd = false) :
    ∃ text, s.Replayable text n := by
  induction n generalizing s with
  | zero => exact ⟨[], s.replayable_zero⟩
  | succ n ih =>
    obtain ⟨text, htext⟩ := ih (isEnd_tokenAt_after h)
    obtain ⟨gap, word, hreplayable, -⟩ := exists_replayable_succ (h 0 n.succ_pos) htext
    exact ⟨_, hreplayable⟩

end FrontEnd.Scanner
