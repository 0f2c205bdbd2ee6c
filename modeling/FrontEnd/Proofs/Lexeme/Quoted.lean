/-
# FrontEnd.Proofs.Lexeme.Quoted — string literals as sequences of parts.

The inside of a string literal is a sequence of plain characters and backslash pairs.  A quote, a
backslash or a newline is never plain, and a newline never completes a pair, so each text has one
such sequence in front, and what follows it decides how the literal ends: at a quote, at the end
of the line, or at a backslash that the end of the line leaves alone.

`exists_parts` finds the sequence; `read_of_closed` and `read_of_unclosed` say what
`Quoted.read` makes of it.  `parts` takes a line apart in the same way, without an eye to where the
literal ends.
-/
import FrontEnd.Lexeme.Quoted
import FrontEnd.Proofs.Text.Run

namespace FrontEnd.Quoted

/-- One step of the inside of a string literal. -/
inductive Part where
  /-- A character that stands for itself. -/
  | plain (c : Char)
  /-- A backslash with the character behind it. -/
  | pair (c : Char)
  deriving DecidableEq, Repr

namespace Part

/-- How a part is written. -/
def text : Part → List Char
  | .plain c => [c]
  | .pair c => ['\\', c]

/-- Whether a part can stand inside a literal, which is on one line. -/
def InLine : Part → Prop
  | .plain c => c ≠ '"' ∧ c ≠ '\\' ∧ c ≠ '\n'
  | .pair c => c ≠ '\n'

/-- The character a part stands for; unknown pairs stand for none. -/
def value? : Part → Option Char
  | .plain c => some c
  | .pair c => unescape? c

/-- The second half of an unknown pair. -/
def unknown? : Part → Option Char
  | .plain _ => none
  | .pair c => if (unescape? c).isSome then none else some c

end Part

/-- How a sequence of parts is written. -/
def written (parts : List Part) : List Char := parts.flatMap Part.text

/-- The characters a sequence of parts stands for. -/
def meaning (parts : List Part) : List Char := parts.filterMap Part.value?

/-- The second half of the first unknown pair. -/
def firstUnknown (parts : List Part) : Option Char := parts.findSome? Part.unknown?

@[simp]
theorem written_cons (p : Part) (ps : List Part) : written (p :: ps) = p.text ++ written ps := rfl

/-! ## Reading a sequence of parts -/

theorem read_plain {c : Char} (h : (Part.plain c).InLine) (cs : List Char) :
    read (c :: cs) = (read cs).plain c := by
  obtain ⟨hquote, hslash, hline⟩ := h
  rw [read.eq_7]
  · exact hline
  · exact hquote
  · rintro hc -
    exact hslash hc
  · intro rest hc _
    exact hslash hc
  · intro d rest hc _
    exact hslash hc

theorem read_pair {c : Char} (h : (Part.pair c).InLine) (cs : List Char) :
    read ('\\' :: c :: cs) = (read cs).pair c := by
  rw [read.eq_6]
  exact h

/-- The parts in front of a text go in front of what is read from the rest. -/
theorem read_written {ps : List Part} (h : ∀ p ∈ ps, p.InLine) (cs : List Char) :
    read (written ps ++ cs) =
      ⟨written ps ++ (read cs).text, meaning ps ++ (read cs).value,
        (firstUnknown ps).or (read cs).badEscape, (read cs).closed⟩ := by
  induction ps with
  | nil => rfl
  | cons p ps ih =>
    have hp := h p List.mem_cons_self
    have hps := ih (by
      intro q hq
      exact h q (List.mem_cons_of_mem p hq))
    rw [written_cons, List.append_assoc]
    cases p with
    | plain c =>
      show read (c :: (written ps ++ cs)) = _
      rw [read_plain hp, hps]
      rfl
    | pair c =>
      show read ('\\' :: c :: (written ps ++ cs)) = _
      rw [read_pair hp, hps]
      cases hc : unescape? c <;>
        simp [Body.pair, hc, meaning, firstUnknown, Part.text, Part.value?, Part.unknown?]

/-- A quote behind the parts closes the literal. -/
theorem read_of_closed {ps : List Part} (h : ∀ p ∈ ps, p.InLine) (rest : List Char) :
    read (written ps ++ '"' :: rest) =
      ⟨written ps ++ ['"'], meaning ps, firstUnknown ps, true⟩ := by
  rw [read_written h]
  simp [read, Body.closing]

/-- Nothing, or a backslash that the end of the line leaves alone. -/
def IsLoose (loose : List Char) : Prop := loose = [] ∨ loose = ['\\']

/-- The end of the line behind the parts leaves the literal open. -/
theorem read_of_unclosed {ps : List Part} {loose rest : List Char} (h : ∀ p ∈ ps, p.InLine)
    (hloose : IsLoose loose) (hrest : EndsLine rest.head?) :
    read (written ps ++ (loose ++ rest)) =
      ⟨written ps ++ loose, meaning ps, firstUnknown ps, false⟩ := by
  have hend : read (loose ++ rest) = ⟨loose, [], none, false⟩ := by
    rcases hloose with rfl | rfl
    · cases rest with
      | nil => rfl
      | cons c cs =>
        obtain rfl := hrest c rfl
        rfl
    · cases rest with
      | nil => rfl
      | cons c cs =>
        obtain rfl := hrest c rfl
        rfl
  rw [read_written h, hend]
  simp

/-! ## Every text starts with a sequence of parts -/

/-- How a literal can go on behind its parts. -/
inductive Ending : List Char → Prop
  | closed (rest : List Char) : Ending ('"' :: rest)
  | unclosed (loose rest : List Char) :
      IsLoose loose → EndsLine rest.head? → Ending (loose ++ rest)

theorem exists_parts (cs : List Char) :
    ∃ ps tail, cs = written ps ++ tail ∧ (∀ p ∈ ps, p.InLine) ∧ Ending tail := by
  induction cs using read.induct with
  | case1 => exact ⟨[], [], rfl, by simp, .unclosed [] [] (Or.inl rfl) endsLine_none⟩
  | case2 rest =>
    exact ⟨[], '\n' :: rest, rfl, by simp,
      .unclosed [] ('\n' :: rest) (Or.inl rfl) endsLine_newline⟩
  | case3 rest => exact ⟨[], '"' :: rest, rfl, by simp, .closed rest⟩
  | case4 => exact ⟨[], ['\\'], rfl, by simp, .unclosed ['\\'] [] (Or.inr rfl) endsLine_none⟩
  | case5 rest =>
    exact ⟨[], '\\' :: '\n' :: rest, rfl, by simp,
      .unclosed ['\\'] ('\n' :: rest) (Or.inr rfl) endsLine_newline⟩
  | case6 c cs hline ih =>
    obtain ⟨ps, tail, rfl, hps, htail⟩ := ih
    refine ⟨.pair c :: ps, tail, rfl, ?_, htail⟩
    rintro p (_ | ⟨_, hp⟩)
    · exact hline
    · exact hps p hp
  | case7 c cs hline hquote hlone hnewline hpair ih =>
    obtain ⟨ps, tail, rfl, hps, htail⟩ := ih
    refine ⟨.plain c :: ps, tail, rfl, ?_, htail⟩
    rintro p (_ | ⟨_, hp⟩)
    · refine ⟨hquote, ?_, hline⟩
      rintro rfl
      cases h : written ps ++ tail with
      | nil => exact hlone rfl h
      | cons d ds => exact hpair d ds rfl h
    · exact hps p hp

/-! ## Taking a line apart -/

/-- A text from left to right, each backslash paired with the character behind it. -/
def parts : List Char → List Part
  | '\\' :: c :: cs => .pair c :: parts cs
  | c :: cs => .plain c :: parts cs
  | [] => []

theorem parts_plain {c : Char} (hc : c ≠ '\\') (cs : List Char) :
    parts (c :: cs) = .plain c :: parts cs := by
  rw [parts.eq_2]
  intro _ _ hslash _
  exact hc hslash

/-- Parts of a line are found again where they are written. -/
theorem parts_written {ps : List Part} (h : ∀ p ∈ ps, p.InLine) (cs : List Char) :
    parts (written ps ++ cs) = ps ++ parts cs := by
  induction ps with
  | nil => rfl
  | cons p ps ih =>
    obtain ⟨hp, hps⟩ := List.forall_mem_cons.mp h
    cases p with
    | plain c =>
      obtain ⟨-, hslash, -⟩ := hp
      show parts (c :: (written ps ++ cs)) = _
      rw [parts_plain hslash, ih hps]
      rfl
    | pair c =>
      show Part.pair c :: parts (written ps ++ cs) = _
      rw [ih hps]
      rfl

/-- The second backslash goes with the first, so the quote stands by itself. -/
example : parts ['\\', '\\', '"', '\\'] = [.pair '\\', .plain '"', .plain '\\'] := rfl

/-- What the end of the line leaves over holds no quote. -/
theorem quote_not_mem_parts {loose : List Char} (h : IsLoose loose) :
    .plain '"' ∉ parts loose := by
  rcases h with rfl | rfl <;> decide

/-- The characters that have a meaning behind a backslash. -/
def escapable : List Char := ['n', 't', 'r', '0', '\\', '"']

theorem isSome_unescape?_iff {c : Char} : (unescape? c).isSome = true ↔ c ∈ escapable := by
  unfold unescape?
  split
  case h_7 hn ht hr h0 hslash hquote =>
    have hnot : c ∉ escapable := by
      simpa [escapable] using And.intro hn ⟨ht, hr, h0, hslash, hquote⟩
    simp [hnot]
  all_goals decide

/-- Every pair has a meaning. -/
def AllKnown (ps : List Part) : Prop := ∀ c, .pair c ∈ ps → c ∈ escapable

theorem firstUnknown_eq_none_iff {ps : List Part} : firstUnknown ps = none ↔ AllKnown ps := by
  rw [firstUnknown, List.findSome?_eq_none_iff]
  constructor
  · intro h c hc
    have hnone := h _ hc
    apply isSome_unescape?_iff.mp
    simpa [Part.unknown?, Option.isSome_iff_ne_none] using hnone
  · intro h p hp
    cases p with
    | plain c => rfl
    | pair c => simp [Part.unknown?, isSome_unescape?_iff.mpr (h c hp)]

/-- The first unknown pair is the one that only known ones stand in front of. -/
theorem firstUnknown_append_pair {front : List Part} {c : Char} (hfront : AllKnown front)
    (hc : c ∉ escapable) (back : List Part) :
    firstUnknown (front ++ .pair c :: back) = some c := by
  have hnone := firstUnknown_eq_none_iff.mpr hfront
  have hunknown : (Part.pair c).unknown? = some c := by
    have hsome : ¬(unescape? c).isSome = true := fun h => hc (isSome_unescape?_iff.mp h)
    simp [Part.unknown?, hsome]
  rw [firstUnknown] at hnone ⊢
  rw [List.findSome?_append, hnone, Option.none_or, List.findSome?_cons, hunknown]

end FrontEnd.Quoted
