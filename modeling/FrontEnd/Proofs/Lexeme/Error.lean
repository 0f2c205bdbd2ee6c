/-
# FrontEnd.Proofs.Lexeme.Error — what the wording of an error tells.

The message of an error says which error it is and, where it is about a character or a base, which
character and which base.  So no two errors are worded alike (`LexicalError.message_injective`).

A message may show a character as itself, with a backslash in front of a letter, or by its code
point.  Still no two characters are shown alike (`Escaped.ofChar_injective`).
-/
import FrontEnd.Lexeme.Error
import Mathlib.Data.List.Infix
import Mathlib.Logic.Function.Basic

namespace FrontEnd

/-! ## Characters in a message -/

namespace Escaped

theorem digitChar_injOn : ∀ m < 16, ∀ n < 16, Nat.digitChar m = Nat.digitChar n → m = n := by
  decide

/-- From sixteen on there is more than one hexadecimal digit. -/
theorem one_lt_length_toDigits {n : Nat} (h : 16 ≤ n) : 1 < (Nat.toDigits 16 n).length := by
  rw [Nat.toDigits_of_base_le (by decide) h, List.length_append]
  exact Nat.lt_add_of_pos_left Nat.length_toDigits_pos

/-- The hexadecimal digits tell the number. -/
theorem eq_of_toDigits {m n : Nat} (h : Nat.toDigits 16 m = Nat.toDigits 16 n) : m = n := by
  induction m using Nat.strongRecOn generalizing n with
  | ind m ih =>
    rcases Nat.lt_or_ge m 16 with hm | hm <;> rcases Nat.lt_or_ge n 16 with hn | hn
    · rw [Nat.toDigits_of_lt_base hm, Nat.toDigits_of_lt_base hn] at h
      exact digitChar_injOn m hm n hn (List.cons.inj h).1
    · have hlength := one_lt_length_toDigits hn
      rw [← h, Nat.toDigits_of_lt_base hm] at hlength
      exact absurd hlength (lt_irrefl 1)
    · have hlength := one_lt_length_toDigits hm
      rw [h, Nat.toDigits_of_lt_base hn] at hlength
      exact absurd hlength (lt_irrefl 1)
    · rw [Nat.toDigits_of_base_le (by decide) hm, Nat.toDigits_of_base_le (by decide) hn] at h
      obtain ⟨hfront, hlast⟩ := List.append_inj' h rfl
      have hquotient : m / 16 = n / 16 := ih (m / 16) (by omega) hfront
      have hdigit : m % 16 = n % 16 :=
        digitChar_injOn _ (Nat.mod_lt m (by decide)) _ (Nat.mod_lt n (by decide))
          (List.cons.inj hlast).1
      omega

/-- The characters that are shown with a backslash, each with what comes behind it. -/
def backslashed : List (Char × Char) :=
  [('\x00', '0'), ('\t', 't'), ('\r', 'r'), ('\n', 'n'), ('\'', '\''), ('"', '"'), ('\\', '\\')]

/-- The ways a character can be shown. -/
inductive Shows : List Char → Char → Prop
  | backslashed {c mark : Char} : (c, mark) ∈ backslashed → Shows ['\\', mark] c
  | itself {c : Char} : Shows [c] c
  | codePoint {c : Char} : Shows (['\\', 'u', '{'] ++ Nat.toDigits 16 c.toNat ++ ['}']) c

theorem shows_ofChar (c : Char) : Shows (ofChar c).toList c := by
  unfold ofChar
  split
  case h_8 c _ _ _ _ _ _ _ =>
    split
    · rw [String.toList_singleton]
      exact .itself
    · simp only [codePoint, hexDigits, String.toList_append, String.toList_ofList]
      exact .codePoint
  all_goals exact .backslashed (by decide)

theorem backslashed_injective :
    ∀ p ∈ backslashed, ∀ q ∈ backslashed, p.2 = q.2 → p.1 = q.1 := by decide

/-- What is shown tells the character: the three ways differ in the number of characters shown. -/
theorem Shows.unique {text text' : List Char} {c d : Char} (hc : Shows text c) (hd : Shows text' d)
    (h : text = text') : c = d := by
  cases hc with
  | backslashed hmem =>
    cases hd with
    | backslashed hmem' => exact backslashed_injective _ hmem _ hmem' (by simpa using h)
    | itself | codePoint => simp at h
  | itself =>
    cases hd with
    | backslashed | codePoint => simp at h
    | itself => simpa using h
  | codePoint =>
    cases hd with
    | backslashed | itself => simp at h
    | codePoint =>
      have hdigits : Nat.toDigits 16 c.toNat = Nat.toDigits 16 d.toNat := by simpa using h
      exact Char.toNat_inj.mp (eq_of_toDigits hdigits)

theorem ofChar_injective : Function.Injective ofChar := by
  intro c d h
  exact (shows_ofChar c).unique (shows_ofChar d) (congrArg String.toList h)

end Escaped

/-! ## Wordings -/

theorem Base.name_injective : Function.Injective Base.name := by
  intro b b' h
  cases b <;> cases b' <;> first | rfl | exact absurd h (by decide)

namespace LexicalError

/-- The words that messages start with.  A message without a character in it is these words. -/
def openings : List (Diagnostic.Code × String) :=
  [(.invalidDigit, "invalid digit '"), (.missingHexDigits, "hexadecimal literal has no digits"),
   (.multiplePoints, "numeric literal has more than one decimal point"),
   (.hexFloat, "hexadecimal literal cannot have a decimal point"),
   (.unterminatedComment, "unterminated block comment"),
   (.unterminatedString, "unterminated string literal"),
   (.invalidEscape, "invalid escape sequence '\\"), (.unexpectedChar, "unexpected character '")]

theorem exists_opening (e : LexicalError) :
    ∃ opening, (e.code, opening) ∈ openings ∧ opening.toList <+: e.message.toList := by
  have hfront (front back : String) : front.toList <+: (front ++ back).toList := by
    rw [String.toList_append]
    exact List.prefix_append _ _
  cases e with
  | invalidDigit digit base =>
    have hmem : (Diagnostic.Code.invalidDigit, "invalid digit '") ∈ openings := by decide
    refine ⟨_, hmem, ?_⟩
    exact (hfront _ _).trans ((hfront _ _).trans ((hfront _ _).trans (hfront _ _)))
  | invalidEscape escaped =>
    have hmem : (Diagnostic.Code.invalidEscape, "invalid escape sequence '\\") ∈ openings := by
      decide
    exact ⟨_, hmem, (hfront _ _).trans (hfront _ _)⟩
  | unexpectedChar c =>
    have hmem : (Diagnostic.Code.unexpectedChar, "unexpected character '") ∈ openings := by decide
    exact ⟨_, hmem, (hfront _ _).trans (hfront _ _)⟩
  | missingHexDigits | multiplePoints | hexFloat | unterminatedComment | unterminatedString =>
    refine ⟨_, ?_, List.prefix_rfl⟩
    decide

theorem openings_apart :
    ∀ p ∈ openings, ∀ q ∈ openings, p.2.toList <+: q.2.toList → p.1 = q.1 := by decide

/-- The first words of a message tell the code. -/
theorem code_eq_of_message {e e' : LexicalError} (h : e.message = e'.message) :
    e.code = e'.code := by
  obtain ⟨opening, hmem, hprefix⟩ := e.exists_opening
  obtain ⟨opening', hmem', hprefix'⟩ := e'.exists_opening
  rw [h] at hprefix
  rcases List.prefix_or_prefix_of_prefix hprefix hprefix' with hle | hle
  · exact openings_apart _ hmem _ hmem' hle
  · exact (openings_apart _ hmem' _ hmem hle).symm

/-- No two errors are worded alike. -/
theorem message_injective : Function.Injective message := by
  intro e e' h
  have hcode := code_eq_of_message h
  unfold message at h
  cases e <;> cases e' <;> try cases hcode
  case invalidDigit.invalidDigit digit base digit' base' =>
    dsimp only at h
    have htext := congrArg String.toList h
    simp only [String.toList_append, String.toList_singleton, List.append_assoc, List.cons_append,
      List.nil_append, List.append_cancel_left_eq, List.cons.injEq, List.append_cancel_right_eq,
      String.toList_inj] at htext
    rw [htext.1, Base.name_injective htext.2]
  case invalidEscape.invalidEscape escaped escaped' =>
    have hchar : escaped = escaped' := by simpa using h
    rw [hchar]
  case unexpectedChar.unexpectedChar c c' =>
    have hshown : Escaped.ofChar c = Escaped.ofChar c' := by simpa using h
    rw [Escaped.ofChar_injective hshown]
  all_goals rfl

end LexicalError

end FrontEnd
