/-
# FrontEnd.Proofs.Place — places move with the text in front of them.

Lines of text put in front of another text move each of its places by the same number of bytes and
lines, and leave columns as they are (`after_shift`).  A newline is what makes this so: behind it
the column is zero, as it is at the front of a text (`step_newline`).
-/
import FrontEnd.Span

namespace FrontEnd

namespace Place

/-- The place so many bytes and lines further on, in the same column. -/
def shift (bytes lines : Nat) (p : Place) : Place := ⟨p.offset + bytes, p.line + lines, p.column⟩

theorem step_shift (bytes lines : Nat) (p : Place) (c : Char) :
    (p.shift bytes lines).step c = (p.step c).shift bytes lines := by
  unfold step
  split
  · simp only [shift, Nat.add_right_comm]
  · simp only [shift, Nat.add_right_comm]

theorem after_shift (bytes lines : Nat) (p : Place) (cs : List Char) :
    (p.shift bytes lines).after cs = (p.after cs).shift bytes lines := by
  induction cs generalizing p with
  | nil => rfl
  | cons c cs ih => rw [after_cons, after_cons, step_shift, ih]

/-- Lines count newlines. -/
theorem line_after (p : Place) (cs : List Char) : (p.after cs).line = p.line + cs.count '\n' := by
  induction cs generalizing p with
  | nil => rfl
  | cons c cs ih =>
    rw [after_cons, ih, List.count_cons]
    by_cases hc : c = '\n'
    · simp [step, hc, Nat.add_comm, Nat.add_left_comm]
    · simp [step, hc]

/-- From the front of a text on, offsets are byte counts. -/
theorem offset_after_origin (cs : List Char) : (origin.after cs).offset = Utf8.size cs := by
  rw [offset_after]
  exact Nat.zero_add _

/-- Behind a text and a newline, a new line starts. -/
theorem step_newline (cs : List Char) :
    (origin.after cs).step '\n' = origin.shift (Utf8.size cs + 1) (cs.count '\n' + 1) := by
  have hoffset := offset_after origin cs
  have hline := line_after origin cs
  simp only [step, if_true, hoffset, hline]
  simp only [shift, origin, Nat.zero_add]
  rfl

end Place

namespace Span

/-- The span so many bytes and lines further on, in the same column. -/
def shift (bytes lines : Nat) (s : Span) : Span :=
  ⟨s.start + bytes, s.stop + bytes, s.line + lines, s.column⟩

end Span

end FrontEnd
