/-
# FrontEnd.Proofs.Place.Locate — places found from the text alone.

A cursor keeps its place as a running total.  `Place.at?` is the other way to come by one: given a
byte offset, take the text in front of it, count its newlines, and count the characters behind the
last of them.  The two agree (`after_origin`), so a byte offset determines line and column.

Line and column determine the offset just as well: of two places in one text the one with the lower
offset comes first by line and column, and the other way round (`offset_lt_iff_precedes`).
-/
import FrontEnd.Proofs.Place
import FrontEnd.Proofs.Text.Slice
import Mathlib.Data.List.DropRight

namespace FrontEnd

/-- What the first `n` bytes of a text hold, told without cutting. -/
theorem Utf8.take?_eq_some_iff {n : Nat} {cs text : List Char} :
    Utf8.take? n cs = some text ↔ ∃ rest, cs = text ++ rest ∧ Utf8.size text = n := by
  constructor
  · intro h
    fun_induction Utf8.take? n cs generalizing text with
    | case1 cs =>
      obtain rfl := Option.some.inj h
      exact ⟨cs, rfl, rfl⟩
    | case2 n => cases h
    | case3 n c cs hle ih =>
      obtain ⟨more, hmore, rfl⟩ := Option.map_eq_some_iff.mp h
      obtain ⟨rest, rfl, hsize⟩ := ih hmore
      refine ⟨rest, rfl, ?_⟩
      rw [size_cons, hsize]
      omega
    | case4 n c cs hlt => cases h
  · rintro ⟨rest, rfl, rfl⟩
    exact take?_size_append text rest

namespace Place

/-! ## Counting -/

/-- The place behind a text, by counting its bytes, its newlines, and its characters behind the last
newline. -/
def behind (cs : List Char) : Place :=
  ⟨Utf8.size cs, cs.count '\n', (cs.rtakeWhile (· ≠ '\n')).length⟩

/-- The place at a byte offset of a text; there is none inside a character or beyond the text. -/
def at? (cs : List Char) (offset : Nat) : Option Place := (Utf8.take? offset cs).map behind

theorem behind_concat (cs : List Char) (c : Char) : behind (cs ++ [c]) = (behind cs).step c := by
  by_cases hc : c = '\n'
  · simp [behind, step, hc]
  · simp [behind, step, hc]

/-- The running total comes to what counting gives. -/
theorem after_origin (cs : List Char) : origin.after cs = behind cs := by
  induction cs using List.reverseRecOn with
  | nil => rfl
  | append_singleton cs c ih =>
    rw [after_append, ih, behind_concat]
    rfl

theorem at?_eq_some_iff {cs : List Char} {offset : Nat} {p : Place} :
    at? cs offset = some p ↔
      ∃ before rest, cs = before ++ rest ∧ Utf8.size before = offset ∧ p = origin.after before := by
  constructor
  · intro h
    obtain ⟨before, hbefore, rfl⟩ := Option.map_eq_some_iff.mp h
    obtain ⟨rest, hcs, hsize⟩ := Utf8.take?_eq_some_iff.mp hbefore
    exact ⟨before, rest, hcs, hsize, (after_origin before).symm⟩
  · rintro ⟨before, rest, rfl, rfl, rfl⟩
    rw [at?, Utf8.take?_size_append, after_origin]
    rfl

/-- The place that a part of a text leads to is the one at its offset. -/
theorem at?_after {cs before rest : List Char} (h : cs = before ++ rest) :
    at? cs (origin.after before).offset = some (origin.after before) := by
  refine at?_eq_some_iff.mpr ⟨before, rest, h, ?_, rfl⟩
  rw [offset_after]
  exact (Nat.zero_add _).symm

/-! ## Order -/

/-- The place `p` comes before `q` by line and column. -/
def Precedes (p q : Place) : Prop := p.line < q.line ∨ p.line = q.line ∧ p.column < q.column

theorem Precedes.asymm {p q : Place} (h : p.Precedes q) : ¬ q.Precedes p := by
  unfold Precedes at h ⊢
  omega

/-- On one line, columns count characters. -/
theorem column_after_of_not_mem {p : Place} {cs : List Char} (h : '\n' ∉ cs) :
    (p.after cs).column = p.column + cs.length := by
  induction cs generalizing p with
  | nil => rfl
  | cons c cs ih =>
    have hc : c ≠ '\n' := (List.ne_of_not_mem_cons h).symm
    rw [after_cons, ih (List.not_mem_of_not_mem_cons h), List.length_cons, step, if_neg hc]
    exact Nat.add_right_comm _ _ _

/-- Passing over text leads on, in bytes as well as by line and column. -/
theorem precedes_after (p : Place) {cs : List Char} (h : cs ≠ []) :
    p.offset < (p.after cs).offset ∧ p.Precedes (p.after cs) := by
  obtain ⟨c, ds, rfl⟩ := List.exists_cons_of_ne_nil h
  constructor
  · have hpos := c.utf8Size_pos
    rw [offset_after, Utf8.size_cons]
    omega
  · have hline := line_after p (c :: ds)
    by_cases hnewline : '\n' ∈ c :: ds
    · have hcount := List.count_pos_iff.mpr hnewline
      exact Or.inl (by omega)
    · have hcolumn := column_after_of_not_mem (p := p) hnewline
      rw [List.count_eq_zero.mpr hnewline] at hline
      rw [List.length_cons] at hcolumn
      exact Or.inr ⟨hline.symm, by omega⟩

/-- A place and one that some text leads to from there, if only an empty one, stand in the same
order by offset and by line and column. -/
theorem ordered_after (p : Place) (cs : List Char) :
    (p.offset < (p.after cs).offset ↔ p.Precedes (p.after cs)) ∧
      ((p.after cs).offset < p.offset ↔ (p.after cs).Precedes p) := by
  by_cases hcs : cs = []
  · subst hcs
    have hsame : p.offset < p.offset ↔ p.Precedes p :=
      iff_of_false (Nat.lt_irrefl _) fun h => h.asymm h
    exact ⟨hsame, hsame⟩
  · obtain ⟨hoffset, hprecedes⟩ := precedes_after p hcs
    exact ⟨iff_of_true hoffset hprecedes, iff_of_false hoffset.asymm hprecedes.asymm⟩

/-- Of two places in one text, the same comes first by offset and by line and column. -/
theorem offset_lt_iff_precedes {cs : List Char} {p q : Place} (hp : at? cs p.offset = some p)
    (hq : at? cs q.offset = some q) : p.offset < q.offset ↔ p.Precedes q := by
  obtain ⟨a, a', hcs, -, rfl⟩ := at?_eq_some_iff.mp hp
  obtain ⟨b, b', hcs', -, rfl⟩ := at?_eq_some_iff.mp hq
  have ha : a <+: cs := ⟨a', hcs.symm⟩
  have hb : b <+: cs := ⟨b', hcs'.symm⟩
  -- One of the two places is reached by way of the other.
  rcases List.prefix_or_prefix_of_prefix ha hb with ⟨more, rfl⟩ | ⟨more, rfl⟩
  · rw [after_append]
    exact (ordered_after _ more).1
  · rw [after_append]
    exact (ordered_after _ more).2

end Place

namespace Span

/-- The place where a span starts. -/
def place (s : Span) : Place := ⟨s.start, s.line, s.column⟩

/-- The span starts where its line and column say. -/
def LocatedIn (s : Span) (source : String) : Prop :=
  Place.at? source.toList s.start = some s.place

/-- Spans in one text start in the same order by offset and by line and column. -/
theorem LocatedIn.start_lt_iff {source : String} {a b : Span} (ha : a.LocatedIn source)
    (hb : b.LocatedIn source) : a.start < b.start ↔ a.place.Precedes b.place :=
  Place.offset_lt_iff_precedes (p := a.place) (q := b.place) ha hb

end Span

end FrontEnd
