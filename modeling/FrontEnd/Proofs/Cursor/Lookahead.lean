/-
# FrontEnd.Proofs.Cursor.Lookahead — what is seen ahead is what is consumed.

The text in front of a cursor is gone through in three ways.  Looking ahead cuts off so many
characters, consuming by number takes them one at a time, and consuming by class goes on until a
character is out of the class.  All three see the same text.  Looking ahead gives the characters that
consuming as many passes over (`Coherent.sliceFrom?_advanceBy`), and consuming by class is consuming
by number, where the number is the length of the longest run (`eatWhile_eq_advanceBy`).

Where a cursor is that has passed a text depends on that text alone (`Passes.unique`).  So two ways of
consuming are the same once they pass the same text; how they go through it does not matter.
-/
import FrontEnd.Proofs.Cursor.Peek
import FrontEnd.Proofs.Text.Run

namespace FrontEnd.Cursor

/-! ## Looking ahead -/

theorem lookahead_of_le {c : Cursor} {n : Nat} (h : n ≤ c.rest.length) :
    c.lookahead n = some (c.rest.take n) := by
  rw [lookahead, if_pos (List.length_take_of_le h)]

theorem lookahead_of_lt {c : Cursor} {n : Nat} (h : c.rest.length < n) : c.lookahead n = none := by
  have hlength : (c.rest.take n).length ≠ n := by
    rw [List.length_take]
    omega
  rw [lookahead, if_neg hlength]

theorem lookahead_eq_some_iff {c : Cursor} {n : Nat} {ahead : List Char} :
    c.lookahead n = some ahead ↔ ahead = c.rest.take n ∧ ahead.length = n := by
  constructor
  · intro h
    rcases Nat.lt_or_ge c.rest.length n with hlt | hle
    · rw [lookahead_of_lt hlt] at h
      cases h
    · rw [lookahead_of_le hle] at h
      obtain rfl := Option.some.inj h
      exact ⟨rfl, List.length_take_of_le hle⟩
  · rintro ⟨rfl, hlength⟩
    rw [List.length_take] at hlength
    exact lookahead_of_le (by omega)

/-- Where fewer characters are left than were asked for, all of them are what can be passed over. -/
theorem lookahead_getD (c : Cursor) (n : Nat) : (c.lookahead n).getD c.rest = c.rest.take n := by
  rcases Nat.lt_or_ge c.rest.length n with hlt | hle
  · rw [lookahead_of_lt hlt, List.take_of_length_le hlt.le]
    rfl
  · rw [lookahead_of_le hle]
    rfl

section

variable {c : Cursor}

theorem Coherent.first_eq (h : c.Coherent) : c.first = c.rest.head? := by
  rw [first, h.peek_eq, List.head?_eq_getElem?]

theorem Coherent.hasNext_iff (h : c.Coherent) {n : Nat} :
    c.hasNext n = true ↔ n < c.rest.length := by
  rw [hasNext, h.peek_eq, isSome_getElem?]

/-- There are `n` characters ahead when there is a last one of them. -/
theorem Coherent.isSome_lookahead_iff (h : c.Coherent) {n : Nat} :
    (c.lookahead n).isSome = true ↔ n = 0 ∨ c.hasNext (n - 1) = true := by
  have hlength : (c.lookahead n).isSome = true ↔ n ≤ c.rest.length := by
    rcases Nat.lt_or_ge c.rest.length n with hlt | hle
    · simp [lookahead_of_lt hlt, hlt]
    · simp [lookahead_of_le hle, hle]
  rw [hlength, h.hasNext_iff]
  omega

/-- Looking ahead as far as a character cuts the text at the byte behind that character. -/
theorem Coherent.lookahead_succ (h : c.Coherent) {n : Nat} {last : Char}
    (hlast : c.peek n = some last) :
    c.lookahead (n + 1) = Utf8.take? (Utf8.size (c.rest.take n) + last.utf8Size) c.rest := by
  rw [h.peek_eq] at hlast
  obtain ⟨hlt, -⟩ := List.getElem?_eq_some_iff.mp hlast
  have hsize : Utf8.size (c.rest.take (n + 1)) = Utf8.size (c.rest.take n) + last.utf8Size := by
    rw [List.take_add_one, hlast, Utf8.size_append]
    rfl
  have hcut := Utf8.take?_size_append (c.rest.take (n + 1)) (c.rest.drop (n + 1))
  rw [List.take_append_drop, hsize] at hcut
  rw [lookahead_of_le hlt, hcut]

/-! ## Consuming -/

/-- Consuming one character hands over the one that is seen first. -/
theorem Coherent.advance?_eq (h : c.Coherent) :
    c.advance? = c.first.map fun ch => (ch, c.advanceBy 1) := by
  rw [h.first_eq]
  obtain ⟨source, rest, place⟩ := c
  cases rest with
  | nil => rfl
  | cons ch rest => rfl

/-- The text from the old position to the new one is the text that was seen ahead. -/
theorem Coherent.sliceFrom?_advanceBy (h : c.Coherent) (n : Nat) :
    (c.advanceBy n).sliceFrom? c.place.offset =
      some (((c.lookahead n).map String.ofList).getD c.remaining) := by
  rw [h.sliceFrom?_eq (c.passes_advanceBy n), ← lookahead_getD, remaining,
    Option.getD_map String.ofList]

/-- Consuming by class looks at the next character each time. -/
theorem Coherent.eatWhile_eq (h : c.Coherent) (p : Char → Bool) :
    c.eatWhile p = if c.first.any p then (c.advanceBy 1).eatWhile p else c := by
  rw [h.first_eq]
  obtain ⟨source, rest, place⟩ := c
  cases rest with
  | nil => rfl
  | cons ch rest =>
    cases hp : p ch with
    | false => simp [eatWhile, hp]
    | true => simp [eatWhile, advanceBy, advance?, hp]

end

/-- Consuming in two goes passes over what consuming in one go does. -/
theorem advanceBy_advanceBy (c : Cursor) (m n : Nat) :
    (c.advanceBy m).advanceBy n = c.advanceBy (m + n) := by
  have htwice := (c.passes_advanceBy m).trans ((c.advanceBy m).passes_advanceBy n)
  rw [rest_advanceBy, ← List.take_add] at htwice
  exact htwice.unique (c.passes_advanceBy (m + n))

/-- Consuming by class is consuming by number. -/
theorem eatWhile_eq_advanceBy (c : Cursor) (p : Char → Bool) :
    c.eatWhile p = c.advanceBy (c.rest.takeWhile p).length := by
  have hnumber := c.passes_advanceBy (c.rest.takeWhile p).length
  rw [← List.prefix_iff_eq_take.mp (List.takeWhile_prefix p)] at hnumber
  exact (c.passes_eatWhile p).unique hnumber

/-- Wherever operations take a cursor, what is seen ahead is what is consumed.  The unconsumed text
stands behind the position in the source.  There are `n` characters ahead if there is a last one of
them, and only then; they are the first `n` of the unconsumed text, which is cut at the byte behind
the last one.  After consuming `n` characters, the text from the old position to the new one is what
was seen ahead, or all that was left where too few were ahead, and together with what is still left
it is what was left before.

Characters are consumed one at a time, each of them the one that is seen first, and consuming in two
goes comes to the same as in one.  Consuming by class looks at the next character each time; it comes
to consuming as many characters as there are in the longest run. -/
theorem lookahead_agrees (source : String) (ops : List Operation) (m n : Nat)
    (p : Char → Bool) :
    let c := (ofString source).performAll ops
    let text := c.remaining.toList
    let passed := (c.advanceBy n).sliceFrom? c.place.offset
    Utf8.drop? c.place.offset source.toList = some text ∧
      ((c.lookahead n).isSome = true ↔ n = 0 ∨ c.hasNext (n - 1) = true) ∧
      (∀ ahead, c.lookahead n = some ahead ↔ ahead = text.take n ∧ ahead.length = n) ∧
      (∀ last, c.peek n = some last →
        c.lookahead (n + 1) = Utf8.take? (Utf8.size (text.take n) + last.utf8Size) text) ∧
      passed = some (((c.lookahead n).map String.ofList).getD c.remaining) ∧
      passed.map (· ++ (c.advanceBy n).remaining) = some c.remaining ∧
      c.advance? = c.first.map (fun ch => (ch, c.advanceBy 1)) ∧
      (c.advanceBy m).advanceBy n = c.advanceBy (m + n) ∧
      (c.eatWhile p = if c.first.any p then (c.advanceBy 1).eatWhile p else c) ∧
      ∃ run, IsLongestRun p run text ∧ c.eatWhile p = c.advanceBy run.length := by
  intro c text passed
  have hcoherent : c.Coherent := coherent_performAll source ops
  have htext : text = c.rest := String.toList_ofList
  have hbehind : Utf8.drop? c.place.offset source.toList = some text :=
    (exact_performAll source ops []).remaining
  rw [htext] at hbehind ⊢
  refine ⟨hbehind, hcoherent.isSome_lookahead_iff, fun ahead => lookahead_eq_some_iff, ?_,
    hcoherent.sliceFrom?_advanceBy n, ?_, hcoherent.advance?_eq, c.advanceBy_advanceBy m n,
    hcoherent.eatWhile_eq p, ?_⟩
  · intro last hlast
    exact hcoherent.lookahead_succ hlast
  · have hpassed : passed = some (.ofList (c.rest.take n)) :=
      hcoherent.sliceFrom?_eq (c.passes_advanceBy n)
    rw [hpassed, Option.map_some, remaining, remaining, rest_advanceBy, ← String.ofList_append,
      List.take_append_drop]
  · exact ⟨c.rest.takeWhile p, isLongestRun_takeWhile p c.rest, c.eatWhile_eq_advanceBy p⟩

/-- Three characters of one, two and three bytes are ahead, but not six. -/
example :
    let c := (ofString "x aé日\n\n").performAll [.advanceBy 2, .peek 9]
    c.lookahead 3 = some ['a', 'é', '日'] ∧ c.lookahead 6 = none ∧
      (c.advanceBy 3).sliceFrom? c.place.offset = some "aé日" ∧
      (c.advanceBy 6).sliceFrom? c.place.offset = some "aé日\n\n" ∧
      (c.advanceBy 6).place = ⟨10, 2, 0⟩ ∧ (c.eatWhile (· ≠ '\n')).place = ⟨8, 0, 5⟩ := by
  decide +kernel

end FrontEnd.Cursor
