/-
# FrontEnd.Proofs.SourceFile — the lines of a source text.

A source file gives its lines by number, each without its line ending.  A scanner counts lines while
it goes.  Both go by the newlines: there is one line more than there are newlines
(`line_eq_none_iff`), and the line with the number of a place is the text around that place, up to
the newlines on both sides (`getElem?_splitLines_append`).  So a text within one line stands in that
line, from its column on (`exists_line`).

A line ending may hold a carriage return, which belongs to it and not to the line.  That is why a text
that ends with one need not be found.
-/
import FrontEnd.Proofs.Place.Locate
import FrontEnd.SourceFile

namespace FrontEnd.SourceFile

/-! ## Splitting -/

theorem length_splitLines (cs : List Char) : (splitLines cs).length = cs.count '\n' + 1 := by
  fun_induction splitLines cs with
  | case1 => rfl
  | case2 cs ih => simp [ih]
  | case3 c cs hc line lines hlines ih =>
    rw [hlines] at ih
    rw [List.count_cons_of_ne hc]
    exact ih
  | case4 c cs hc hlines ih =>
    rw [hlines] at ih
    cases ih

/-- There is always a first line. -/
theorem exists_splitLines_eq_cons (cs : List Char) :
    ∃ line lines, splitLines cs = line :: lines := by
  apply List.exists_cons_of_length_pos
  rw [length_splitLines]
  exact Nat.succ_pos _

theorem splitLines_cons {c : Char} (hc : c ≠ '\n') (cs : List Char) :
    splitLines (c :: cs) = (splitLines cs).modifyHead (c :: ·) := by
  obtain ⟨line, lines, hlines⟩ := exists_splitLines_eq_cons cs
  rw [splitLines.eq_3 c cs hc, hlines]
  rfl

theorem splitLines_append_newline (a b : List Char) :
    splitLines (a ++ '\n' :: b) = splitLines a ++ splitLines b := by
  induction a with
  | nil => rfl
  | cons c a ih =>
    by_cases hc : c = '\n'
    · subst hc
      exact congrArg ([] :: ·) ih
    · obtain ⟨line, lines, hlines⟩ := exists_splitLines_eq_cons a
      rw [List.cons_append, splitLines_cons hc, splitLines_cons hc, ih, hlines]
      rfl

/-- The first line goes up to the first newline. -/
theorem head?_splitLines (cs : List Char) :
    (splitLines cs).head? = some (cs.takeWhile (· ≠ '\n')) := by
  induction cs with
  | nil => rfl
  | cons c cs ih =>
    by_cases hc : c = '\n'
    · subst hc
      rfl
    · rw [splitLines_cons hc, List.head?_modifyHead, ih]
      simp [hc]

/-- The line at a place is the text around it, up to the newlines on both sides. -/
theorem getElem?_splitLines_append (before rest : List Char) :
    (splitLines (before ++ rest))[before.count '\n']? =
      some (before.rtakeWhile (· ≠ '\n') ++ rest.takeWhile (· ≠ '\n')) := by
  induction before using List.reverseRecOn generalizing rest with
  | nil =>
    rw [List.nil_append, List.count_nil, ← List.head?_eq_getElem?, head?_splitLines]
    rfl
  | append_singleton before c ih =>
    rw [List.append_assoc, List.singleton_append]
    by_cases hc : c = '\n'
    · -- A new line starts right here.
      subst hc
      have hcount : (before ++ ['\n']).count '\n' = (splitLines before).length := by
        rw [length_splitLines, List.count_append]
        rfl
      rw [splitLines_append_newline, hcount, List.getElem?_append_right (Nat.le_refl _),
        Nat.sub_self, ← List.head?_eq_getElem?, head?_splitLines]
      simp
    · have hcount : (before ++ [c]).count '\n' = before.count '\n' := by simp [hc]
      rw [hcount, ih]
      simp [hc]

/-! ## Line endings -/

/-- What is dropped is at the end. -/
theorem dropReturn_append {a : List Char} (h : a.getLast? ≠ some '\r') (b : List Char) :
    dropReturn (a ++ b) = a ++ dropReturn b := by
  cases b using List.reverseRecOn with
  | nil =>
    rw [List.append_nil, dropReturn, if_neg h]
    exact (List.append_nil a).symm
  | append_singleton b c =>
    unfold dropReturn
    rw [← List.append_assoc, List.getLast?_concat, List.getLast?_concat, List.dropLast_concat,
      List.dropLast_concat]
    split <;> simp

/-! ## Lines by number -/

section

variable (f : SourceFile)

/-- The lines are numbered up to the number of newlines. -/
theorem line_eq_none_iff {n : Nat} : f.line n = none ↔ f.content.toList.count '\n' < n := by
  rw [line, Option.map_eq_none_iff, List.getElem?_eq_none_iff, length_splitLines]
  omega

/-- A text within one line, which does not end like a line ending, stands in that line from its
column on. -/
theorem exists_line {before text behind : List Char} {c : Char}
    (hcontent : f.content.toList = before ++ (text ++ behind)) (htext : '\n' ∉ text)
    (hlast : text.getLast? = some c) (hc : c ≠ '\r') :
    ∃ line, f.line (Place.origin.after before).line = some line ∧
      text <+: line.toList.drop (Place.origin.after before).column := by
  let head := before.rtakeWhile (· ≠ '\n')
  have htake : (text ++ behind).takeWhile (· ≠ '\n') = text ++ behind.takeWhile (· ≠ '\n') := by
    apply List.takeWhile_append_of_pos
    intro d hd
    simpa using fun h : d = '\n' => htext (h ▸ hd)
  have hkept : (head ++ text).getLast? ≠ some '\r' := by
    rw [List.getLast?_append, hlast]
    simpa using hc
  have hline : dropReturn (head ++ (text ++ behind).takeWhile (· ≠ '\n')) =
      head ++ (text ++ dropReturn (behind.takeWhile (· ≠ '\n'))) := by
    rw [htake, ← List.append_assoc, dropReturn_append hkept, List.append_assoc]
  rw [Place.after_origin]
  refine ⟨.ofList (head ++ (text ++ dropReturn (behind.takeWhile (· ≠ '\n')))), ?_, ?_⟩
  · show (splitLines f.content.toList)[before.count '\n']?.map _ = _
    rw [hcontent, getElem?_splitLines_append, Option.map_some, hline]
  · show text <+: (String.toList _).drop head.length
    rw [String.toList_ofList, List.drop_left]
    exact List.prefix_append text _

end

end FrontEnd.SourceFile
