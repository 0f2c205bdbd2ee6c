/-
# FrontEnd.Proofs.Text.CharClass — how the character classes exclude each other.

A piece of text is told by its first character, so the classes a piece can start with have to be
disjoint.  `IsWord` and `StartsNumeral` say which texts begin as words and numerals do.
-/
import FrontEnd.Text.CharClass

namespace FrontEnd.CharClass

/-- A letter or underscore, then letters, digits and underscores. -/
def IsWord (text : List Char) : Prop :=
  ∃ c cs, text = c :: cs ∧ isWordStart c = true ∧ ∀ d ∈ cs, isWordPart d = true

/-- A digit comes first, or a point with a digit behind it. -/
def StartsNumeral (text : List Char) : Prop :=
  ∃ c cs, c.isDigit = true ∧ (text = c :: cs ∨ text = '.' :: c :: cs)

/-- A character of a class is none that lies outside it. -/
theorem ne_of_class {p : Char → Bool} {c d : Char} (hc : p c = true) (hd : p d = false) :
    c ≠ d := by
  rintro rfl
  rw [hc] at hd
  cases hd

theorem isNumeralPart_of_isDigit {c : Char} (h : c.isDigit = true) : isNumeralPart c = true := by
  simp [isNumeralPart, isWordPart, Char.isAlphanum, h]

/-- Digits come before letters. -/
theorem isAlpha_eq_false_of_isDigit {c : Char} (h : c.isDigit = true) : c.isAlpha = false := by
  have hle : c.val.toNat ≤ 57 := (Char.isDigit_iff_toNat.mp h).2
  have hupper : ¬ ('A'.val ≤ c.val ∧ c.val ≤ 'Z'.val) := by
    rintro ⟨hge, -⟩
    have hge' : 65 ≤ c.val.toNat := UInt32.le_iff_toNat_le.mp hge
    omega
  have hlower : ¬ 'a'.val ≤ c.val := by
    intro hge
    have hge' : 97 ≤ c.val.toNat := UInt32.le_iff_toNat_le.mp hge
    omega
  show (decide ('A'.val ≤ c.val ∧ c.val ≤ 'Z'.val) ||
    (decide ('a'.val ≤ c.val) && decide (c.val ≤ 'z'.val))) = false
  rw [decide_eq_false hupper, decide_eq_false hlower]
  rfl

theorem isWordStart_eq_false_of_isDigit {c : Char} (h : c.isDigit = true) :
    isWordStart c = false := by
  have hne : c ≠ '_' := ne_of_class h rfl
  simp [isWordStart, isAlpha_eq_false_of_isDigit h, hne]

theorem isBlank_iff {c : Char} :
    isBlank c = true ↔ c = ' ' ∨ c = '\t' ∨ c = '\r' ∨ c = '\n' ∨ c = '\x00' := by
  simp [isBlank, or_assoc]

theorem isWordPart_of_isBlank {c : Char} (h : isBlank c = true) : isWordPart c = false := by
  rcases isBlank_iff.mp h with rfl | rfl | rfl | rfl | rfl <;> rfl

theorem isNumeralPart_of_isBlank {c : Char} (h : isBlank c = true) : isNumeralPart c = false := by
  rcases isBlank_iff.mp h with rfl | rfl | rfl | rfl | rfl <;> rfl

theorem isBlank_of_isWordPart {c : Char} (h : isWordPart c = true) : isBlank c = false := by
  rw [Bool.eq_false_iff]
  intro hblank
  rw [isWordPart_of_isBlank hblank] at h
  cases h

theorem toNat_le_of_isAlpha {c : Char} (h : c.isAlpha = true) : c.toNat ≤ 122 := by
  have hletter : (decide ('A'.val ≤ c.val ∧ c.val ≤ 'Z'.val) ||
      (decide ('a'.val ≤ c.val) && decide (c.val ≤ 'z'.val))) = true := h
  simp only [Bool.or_eq_true, Bool.and_eq_true, decide_eq_true_eq] at hletter
  rcases hletter with ⟨-, hle⟩ | ⟨-, hle⟩
  · have hle' : c.toNat ≤ 90 := UInt32.le_iff_toNat_le.mp hle
    omega
  · exact UInt32.le_iff_toNat_le.mp hle

/-- Words and numerals are ASCII. -/
theorem toNat_lt_of_isNumeralPart {c : Char} (h : isNumeralPart c = true) : c.toNat < 128 := by
  simp only [isNumeralPart, isWordPart, Char.isAlphanum, Bool.or_eq_true, beq_iff_eq] at h
  rcases h with ((halpha | hdigit) | rfl) | rfl
  · have hle := toNat_le_of_isAlpha halpha
    omega
  · have hle : c.toNat ≤ 57 := (Char.isDigit_iff_toNat.mp hdigit).2
    omega
  · decide
  · decide

theorem exists_cons_of_startsNumeral {text : List Char} (h : StartsNumeral text) :
    ∃ c cs, text = c :: cs ∧ isBlank c = false := by
  obtain ⟨c, cs, hc, rfl | rfl⟩ := h
  · have hpart : isWordPart c = true := by simp [isWordPart, Char.isAlphanum, hc]
    exact ⟨c, cs, rfl, isBlank_of_isWordPart hpart⟩
  · exact ⟨'.', c :: cs, rfl, rfl⟩

theorem isWord_of_isWordStart {c : Char} {cs : List Char} (hc : isWordStart c = true)
    (hcs : ∀ d ∈ cs, isWordPart d = true) : IsWord (c :: cs) :=
  ⟨c, cs, rfl, hc, hcs⟩

theorem IsWord.isWordPart {text : List Char} (h : IsWord text) :
    ∀ c ∈ text, isWordPart c = true := by
  obtain ⟨c, cs, rfl, hc, hcs⟩ := h
  rintro d (_ | ⟨_, hd⟩)
  · exact isWordPart_of_isWordStart hc
  · exact hcs d hd

end FrontEnd.CharClass
