/-
# FrontEnd.Proofs.Lexeme.Comment — where a block comment ends.

A block comment ends with the first closing mark behind its opening mark.  `blockBody_closed_iff`
and `blockBody_open_iff` say that `Comment.blockBody` finds exactly that mark, or that there is
none.
-/
import FrontEnd.Lexeme.Comment
import Mathlib.Data.List.Infix

namespace FrontEnd.Comment

/-- The characters that close a block comment. -/
def closingMark : List Char := ['*', '/']

/-- What stands behind the opening mark of a complete block comment: it ends with a closing mark
and holds none before. -/
def IsClosed (body : List Char) : Prop :=
  ∃ inner, body = inner ++ closingMark ∧ ¬ closingMark <:+: inner

/-- What stands behind the opening mark of a block comment that nothing closes. -/
def IsOpen (body : List Char) : Prop := ¬ closingMark <:+: body

theorem blockBody_cons {c : Char} {cs : List Char} (h : ¬ closingMark <+: c :: cs) :
    blockBody (c :: cs) = (c :: (blockBody cs).1, (blockBody cs).2) := by
  rw [blockBody.eq_3]
  rintro rest rfl rfl
  exact h ⟨rest, rfl⟩

/-- The text in front of the first closing mark, with that mark, is what closes the comment. -/
theorem blockBody_of_isClosed {body : List Char} (h : IsClosed body) (rest : List Char) :
    blockBody (body ++ rest) = (body, true) := by
  obtain ⟨inner, rfl, hinner⟩ := h
  induction inner with
  | nil => rfl
  | cons c cs ih =>
    have hcs : ¬ closingMark <:+: cs := fun hin => hinner (List.infix_cons hin)
    have hnot : ¬ closingMark <+: c :: (cs ++ closingMark ++ rest) := by
      rintro ⟨tail, htail⟩
      obtain ⟨hc, htail⟩ := List.cons.inj htail
      -- the mark cannot start in `inner` and end in the mark that follows it
      cases cs with
      | nil => exact absurd (List.cons.inj htail).1 (by decide)
      | cons d ds =>
        have hd := (List.cons.inj htail).1
        subst hc hd
        exact hinner (List.IsPrefix.isInfix ⟨ds, rfl⟩)
    rw [List.cons_append, List.cons_append, blockBody_cons hnot, ih hcs]

theorem blockBody_of_isOpen {body : List Char} (h : IsOpen body) :
    blockBody body = (body, false) := by
  induction body with
  | nil => rfl
  | cons c cs ih =>
    have hcs : IsOpen cs := fun hin => h (List.infix_cons hin)
    rw [blockBody_cons fun hpre => h hpre.isInfix, ih hcs]

/-- Every text is closed somewhere, or nowhere. -/
theorem isOpen_or_isClosed (cs : List Char) :
    IsOpen cs ∨ ∃ body rest, cs = body ++ rest ∧ IsClosed body := by
  induction cs with
  | nil => exact Or.inl (by simp [IsOpen, closingMark])
  | cons c cs ih =>
    by_cases hpre : closingMark <+: c :: cs
    · obtain ⟨rest, hrest⟩ := hpre
      exact Or.inr ⟨closingMark, rest, hrest.symm, [], rfl, by decide⟩
    · rcases ih with hopen | ⟨body, rest, rfl, inner, rfl, hinner⟩
      · exact Or.inl fun hin => (List.infix_cons_iff.mp hin).elim hpre hopen
      · refine Or.inr ⟨c :: inner ++ closingMark, rest, rfl, c :: inner, rfl, ?_⟩
        intro hin
        rcases List.infix_cons_iff.mp hin with hpre' | hin'
        · exact hpre (hpre'.trans ⟨closingMark ++ rest, by simp⟩)
        · exact hinner hin'

/-- A block comment is closed exactly by the first closing mark. -/
theorem blockBody_closed_iff {cs body : List Char} :
    blockBody cs = (body, true) ↔ ∃ rest, cs = body ++ rest ∧ IsClosed body := by
  constructor
  · intro h
    rcases isOpen_or_isClosed cs with hopen | ⟨text, rest, rfl, hclosed⟩
    · rw [blockBody_of_isOpen hopen] at h
      cases h
    · rw [blockBody_of_isClosed hclosed] at h
      cases h
      exact ⟨rest, rfl, hclosed⟩
  · rintro ⟨rest, rfl, hclosed⟩
    exact blockBody_of_isClosed hclosed rest

/-- A block comment stays open exactly when there is no closing mark, and then reaches to the end
of the text. -/
theorem blockBody_open_iff {cs body : List Char} :
    blockBody cs = (body, false) ↔ cs = body ∧ IsOpen body := by
  constructor
  · intro h
    rcases isOpen_or_isClosed cs with hopen | ⟨text, rest, rfl, hclosed⟩
    · rw [blockBody_of_isOpen hopen] at h
      cases h
      exact ⟨rfl, hopen⟩
    · rw [blockBody_of_isClosed hclosed] at h
      cases h
  · rintro ⟨rfl, hopen⟩
    exact blockBody_of_isOpen hopen

end FrontEnd.Comment
