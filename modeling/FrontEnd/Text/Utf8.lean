/-
# FrontEnd.Text.Utf8 — byte offsets into a list of characters.

Positions in source text are byte offsets of its UTF-8 form, while texts are handled as lists of
characters.  This file measures a list in bytes and cuts it at a byte offset; a cut that would
fall inside a character, or behind the last one, does not exist.
-/

namespace FrontEnd.Utf8

/-- The number of bytes of the UTF-8 form of `cs`. -/
def size : List Char → Nat
  | [] => 0
  | c :: cs => c.utf8Size + size cs

/-- Drops exactly `n` bytes; there is no answer unless the cut falls between two characters. -/
def drop? : Nat → List Char → Option (List Char)
  | 0, cs => some cs
  | _ + 1, [] => none
  | n + 1, c :: cs => if c.utf8Size ≤ n + 1 then drop? (n + 1 - c.utf8Size) cs else none

/-- Keeps exactly the first `n` bytes; there is no answer unless the cut falls between two
characters. -/
def take? : Nat → List Char → Option (List Char)
  | 0, _ => some []
  | _ + 1, [] => none
  | n + 1, c :: cs =>
    if c.utf8Size ≤ n + 1 then (take? (n + 1 - c.utf8Size) cs).map (c :: ·) else none

/-- The text between two byte offsets, present when they are in order and fall between
characters. -/
def slice? (cs : List Char) (start stop : Nat) : Option (List Char) :=
  if start ≤ stop then (drop? start cs).bind (take? (stop - start)) else none

/-- The byte at an offset of the UTF-8 form of a string. -/
def byte? (s : String) (i : Nat) : Option UInt8 :=
  if h : (⟨i⟩ : String.Pos.Raw) < s.rawEndPos then some (s.getUTF8Byte ⟨i⟩ h) else none

/-- Whether `n` bytes follow the offset `i` and each of them is an ASCII character. -/
def isAsciiRun (s : String) (i : Nat) : Nat → Bool
  | 0 => true
  | n + 1 =>
    match byte? s i with
    | some b => if b < 128 then isAsciiRun s (i + 1) n else false
    | none => false

@[simp]
theorem size_nil : size [] = 0 := rfl

@[simp]
theorem size_cons (c : Char) (cs : List Char) : size (c :: cs) = c.utf8Size + size cs := rfl

@[simp]
theorem size_append (a b : List Char) : size (a ++ b) = size a + size b := by
  induction a with
  | nil => simp
  | cons c cs ih => simp [ih, Nat.add_assoc]

/-- A cut behind a known first part finds it. -/
theorem drop?_size_append (a b : List Char) : drop? (size a) (a ++ b) = some b := by
  induction a with
  | nil => cases b <;> rfl
  | cons c cs ih =>
    obtain ⟨n, hn⟩ : ∃ n, size (c :: cs) = n + 1 :=
      ⟨size (c :: cs) - 1, by have := c.utf8Size_pos; simp; omega⟩
    rw [hn, List.cons_append, drop?]
    have hc : c.utf8Size ≤ n + 1 := by simp at hn; omega
    have hr : n + 1 - c.utf8Size = size cs := by simp at hn; omega
    rw [if_pos hc, hr, ih]

/-- Keeping the bytes of a known first part keeps that part. -/
theorem take?_size_append (a b : List Char) : take? (size a) (a ++ b) = some a := by
  induction a with
  | nil => cases b <;> rfl
  | cons c cs ih =>
    obtain ⟨n, hn⟩ : ∃ n, size (c :: cs) = n + 1 :=
      ⟨size (c :: cs) - 1, by have := c.utf8Size_pos; simp; omega⟩
    rw [hn, List.cons_append, take?]
    have hc : c.utf8Size ≤ n + 1 := by simp at hn; omega
    have hr : n + 1 - c.utf8Size = size cs := by simp at hn; omega
    rw [if_pos hc, hr, ih]
    rfl

/-- Slicing from the end of one part to the end of the next gives that next part. -/
theorem slice?_append (a b c : List Char) :
    slice? (a ++ b ++ c) (size a) (size a + size b) = some b := by
  rw [slice?, if_pos (Nat.le_add_right _ _), List.append_assoc, drop?_size_append]
  simp [take?_size_append]

end FrontEnd.Utf8
