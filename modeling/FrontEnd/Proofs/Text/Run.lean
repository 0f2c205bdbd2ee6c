/-
# FrontEnd.Proofs.Text.Run — longest runs of a character class.

Blanks, words, numerals and line comments are all taken as the longest run of some class.  A run
is longest when it lies in the class and the character behind it, if there is one, does not; only
that one character matters, not the text that follows it (`IsRun.isLongestRun`).  `isRun_takeWhile`
and `takeWhile_of_isRun` say that taking characters while they are in the class finds the longest
run and nothing else.
-/
import FrontEnd.Text.CharClass

namespace FrontEnd

/-- `run` lies in the class `p`, and `next`, the character behind it, does not. -/
structure IsRun (p : Char → Bool) (run : List Char) (next : Option Char) : Prop where
  inside : ∀ c ∈ run, p c = true
  stops : ∀ c ∈ next, p c = false

/-- Of the texts at the front of `cs` that lie in the class `p`, `run` is the longest. -/
structure IsLongestRun (p : Char → Bool) (run cs : List Char) : Prop where
  front : run <+: cs
  inside : ∀ c ∈ run, p c = true
  longest : ∀ other, other <+: cs → (∀ c ∈ other, p c = true) → other.length ≤ run.length

/-- The line ends where the text does or where a newline comes next. -/
def EndsLine (next : Option Char) : Prop := ∀ c ∈ next, c = '\n'

theorem endsLine_none : EndsLine none := by
  rintro c ⟨⟩

theorem endsLine_newline : EndsLine (some '\n') := by
  rintro c ⟨⟩
  rfl

section

variable {p : Char → Bool} {run rest : List Char}

theorem isRun_takeWhile (p : Char → Bool) (cs : List Char) :
    IsRun p (cs.takeWhile p) (cs.dropWhile p).head? := by
  constructor
  · intro c hc
    exact List.all_eq_true.mp List.all_takeWhile c hc
  · intro c hc
    have h := List.head?_dropWhile_not p cs
    rw [Option.mem_def.mp hc] at h
    exact h

theorem takeWhile_of_isRun (h : IsRun p run rest.head?) : (run ++ rest).takeWhile p = run := by
  have hnone : (rest.takeWhile p).head? = none := by
    rw [List.head?_takeWhile, Option.filter_eq_none_iff]
    intro c hc
    rw [h.stops c hc]
    exact Bool.false_ne_true
  rw [List.takeWhile_append_of_pos h.inside, List.head?_eq_none_iff.mp hnone, List.append_nil]

theorem dropWhile_of_isRun (h : IsRun p run rest.head?) : (run ++ rest).dropWhile p = rest := by
  have hsplit := (run ++ rest).takeWhile_append_dropWhile (p := p)
  rw [takeWhile_of_isRun h] at hsplit
  exact List.append_cancel_left hsplit

theorem IsRun.isLongestRun (h : IsRun p run rest.head?) : IsLongestRun p run (run ++ rest) := by
  refine ⟨List.prefix_append run rest, h.inside, ?_⟩
  intro other hfront hinside
  cases rest with
  | nil =>
    rw [List.append_nil] at hfront
    exact hfront.length_le
  | cons c cs =>
    -- a longer text would take in the character that stops the run
    apply Nat.le_of_not_lt
    intro hlt
    have hnext : run ++ [c] <+: other := by
      apply List.prefix_of_prefix_length_le ⟨cs, by simp⟩ hfront
      rw [List.length_append, List.length_singleton]
      omega
    have hc := hinside c (hnext.subset (by simp))
    rw [h.stops c rfl] at hc
    cases hc

theorem isLongestRun_takeWhile (p : Char → Bool) (cs : List Char) :
    IsLongestRun p (cs.takeWhile p) cs := by
  have h := (isRun_takeWhile p cs).isLongestRun
  rwa [List.takeWhile_append_dropWhile] at h

end

/-- The characters up to the end of the line are the run of everything but newlines. -/
theorem isRun_line_iff {body : List Char} {next : Option Char} :
    IsRun (· ≠ '\n') body next ↔ '\n' ∉ body ∧ EndsLine next := by
  constructor
  · intro h
    constructor
    · intro hmem
      simpa using h.inside '\n' hmem
    · intro c hc
      simpa using h.stops c hc
  · rintro ⟨hbody, hnext⟩
    constructor
    · intro c hc
      have hne : c ≠ '\n' := by
        rintro rfl
        exact hbody hc
      simpa using hne
    · intro c hc
      simpa using hnext c hc

end FrontEnd
