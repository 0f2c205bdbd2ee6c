/-
# FrontEnd.Proofs.Lexeme.Numeral.Grammar — which texts are numerals.

The grammar of numerals speaks of digits and where they stand: a hexadecimal mark with digits behind
it, a whole part, or a whole part with a point and a fraction behind it.  A whole part is octal when
it starts with a zero, also in front of a point, and a fraction is decimal whatever stands in front
of it; so `017.9` is a float and `08.5` is nothing.  The whole part may be missing.

`Numeral.classify` knows nothing of this.  It picks a base by the first two characters and then reads
one character after the other, and goes over to decimal at the point.  `classify_eq_ok_iff` says that it
accepts exactly the numerals of the grammar.
-/
import FrontEnd.Proofs.Lexeme.Numeral
import Mathlib.Tactic.SplitIfs

namespace FrontEnd

/-- The digits of a base. -/
def Base.digits : Base → List Char
  | .octal => ['0', '1', '2', '3', '4', '5', '6', '7']
  | .decimal => ['0', '1', '2', '3', '4', '5', '6', '7', '8', '9']
  | .hexadecimal =>
    ['0', '1', '2', '3', '4', '5', '6', '7', '8', '9', 'a', 'b', 'c', 'd', 'e', 'f',
     'A', 'B', 'C', 'D', 'E', 'F']

/-- A base accepts its digits and nothing else. -/
theorem Base.accepts_iff {base : Base} {c : Char} : base.accepts c = true ↔ c ∈ base.digits := by
  -- outside ASCII there is neither, and inside there are few characters to look at
  have hascii : ∀ n < 128, base.accepts (Char.ofNat n) = decide (Char.ofNat n ∈ base.digits) := by
    cases base <;> decide +kernel
  by_cases hc : c.toNat < 128
  · have hboth := hascii c.toNat hc
    rw [Char.ofNat_toNat] at hboth
    rw [hboth, decide_eq_true_iff]
  · constructor
    · intro h
      exact absurd (CharClass.toNat_lt_of_isNumeralPart (Numeral.isNumeralPart_of_accepts h)) hc
    · intro h
      have hdigits : base.digits.all (·.toNat < 128) = true := by cases base <;> decide
      exact absurd (by simpa using List.all_eq_true.mp hdigits c h) hc

namespace Numeral

/-! ## Reading digits -/

theorem ne_point_of_mem_digits {base : Base} {c : Char} (h : c ∈ base.digits) : c ≠ '.' := by
  rintro rfl
  revert h
  cases base <;> decide

section

variable {base : Base} {pointSeen : Bool} {family : Literal} {cs : List Char}

/-- Digits of the base in front leave everything to what stands behind them. -/
theorem readDigits_append {ds : List Char} (h : ∀ d ∈ ds, d ∈ base.digits) (cs : List Char) :
    readDigits base pointSeen (ds ++ cs) = readDigits base pointSeen cs := by
  induction ds with
  | nil => rfl
  | cons d ds ih =>
    obtain ⟨hd, hds⟩ := List.forall_mem_cons.mp h
    rw [List.cons_append, readDigits, if_neg (ne_point_of_mem_digits hd),
      if_pos (Base.accepts_iff.mpr hd), ih hds]

theorem readDigits_of_digits (h : ∀ d ∈ cs, d ∈ base.digits) :
    readDigits base pointSeen cs = .ok (if pointSeen then .float else .int) := by
  have happend : readDigits base pointSeen (cs ++ []) = _ := readDigits_append h []
  rwa [List.append_nil] at happend

/-- Outside hexadecimal, the first point makes a float and decimal digits come behind it. -/
theorem readDigits_point (h : base ≠ .hexadecimal) (cs : List Char) :
    readDigits base false ('.' :: cs) = readDigits .decimal true cs := by
  simp [readDigits, h]

/-- Behind the point there is nothing but digits. -/
theorem readDigits_true_eq_ok_iff :
    readDigits base true cs = .ok family ↔ family = .float ∧ ∀ d ∈ cs, d ∈ base.digits := by
  constructor
  · intro h
    induction cs with
    | nil =>
      obtain rfl := Except.ok.inj h
      exact ⟨rfl, List.forall_mem_nil _⟩
    | cons c cs ih =>
      rw [readDigits] at h
      split_ifs at h with hpoint hbase hseen haccepts
      · exact absurd rfl hseen
      · obtain ⟨hfamily, hcs⟩ := ih h
        exact ⟨hfamily, List.forall_mem_cons.mpr ⟨Base.accepts_iff.mp haccepts, hcs⟩⟩
  · rintro ⟨rfl, hcs⟩
    exact readDigits_of_digits hcs

/-- In front of the point, digits of the base; then nothing, or the point and decimal digits. -/
theorem readDigits_false_eq_ok_iff :
    readDigits base false cs = .ok family ↔
      (family = .int ∧ ∀ d ∈ cs, d ∈ base.digits) ∨
        (family = .float ∧ base ≠ .hexadecimal ∧ ∃ whole fraction,
          cs = whole ++ '.' :: fraction ∧ (∀ d ∈ whole, d ∈ base.digits) ∧
            ∀ d ∈ fraction, d ∈ Base.decimal.digits) := by
  constructor
  · intro h
    induction cs with
    | nil =>
      obtain rfl := Except.ok.inj h
      exact Or.inl ⟨rfl, List.forall_mem_nil _⟩
    | cons c cs ih =>
      rw [readDigits] at h
      split_ifs at h with hpoint hbase hseen haccepts
      · subst hpoint
        obtain ⟨hfamily, hfraction⟩ := readDigits_true_eq_ok_iff.mp h
        exact Or.inr ⟨hfamily, hbase, [], cs, rfl, List.forall_mem_nil _, hfraction⟩
      · have hc := Base.accepts_iff.mp haccepts
        rcases ih h with ⟨hfamily, hcs⟩ | ⟨hfamily, hbase, whole, fraction, rfl, hwhole, hfraction⟩
        · exact Or.inl ⟨hfamily, List.forall_mem_cons.mpr ⟨hc, hcs⟩⟩
        · exact Or.inr ⟨hfamily, hbase, c :: whole, fraction, rfl,
            List.forall_mem_cons.mpr ⟨hc, hwhole⟩, hfraction⟩
  · rintro (⟨rfl, hcs⟩ | ⟨rfl, hbase, whole, fraction, rfl, hwhole, hfraction⟩)
    · exact readDigits_of_digits hcs
    · rw [readDigits_append hwhole, readDigits_point hbase]
      exact readDigits_of_digits hfraction

/-- Hexadecimal numerals have no point, so their digits are all there is. -/
theorem readDigits_hexadecimal_eq_ok_iff :
    readDigits .hexadecimal false cs = .ok family ↔
      family = .int ∧ ∀ d ∈ cs, d ∈ Base.hexadecimal.digits := by
  rw [readDigits_false_eq_ok_iff]
  constructor
  · rintro (h | ⟨-, hbase, -⟩)
    · exact h
    · exact absurd rfl hbase
  · exact Or.inl

end

/-! ## How a numeral opens -/

/-- The second character of a hexadecimal numeral. -/
def IsMark (c : Char) : Prop := c = 'x' ∨ c = 'X'

theorem classify_mark {mark : Char} (h : IsMark mark) (cs : List Char) :
    classify ('0' :: mark :: cs) = readHexadecimal cs := by
  rcases h with rfl | rfl <;> rfl

theorem readHexadecimal_of_ne_nil {cs : List Char} (h : cs ≠ []) :
    readHexadecimal cs = readDigits .hexadecimal false cs := by
  cases cs with
  | nil => exact absurd rfl h
  | cons c cs => rfl

theorem classify_zero_point (cs : List Char) :
    classify ('0' :: '.' :: cs) = readDigits .decimal true cs := rfl

theorem classify_zero {cs : List Char} (h : ∀ c ∈ cs.head?, ¬ IsMark c ∧ c ≠ '.') :
    classify ('0' :: cs) = readDigits .octal false cs := by
  cases cs with
  | nil => rfl
  | cons c cs =>
    obtain ⟨hmark, hpoint⟩ := h c rfl
    rw [classify.eq_4]
    · rintro ds ⟨⟩
      exact hmark (Or.inl rfl)
    · rintro ds ⟨⟩
      exact hmark (Or.inr rfl)
    · rintro ds ⟨⟩
      exact hpoint rfl

theorem classify_of_ne_zero {cs : List Char} (h : ∀ c ∈ cs.head?, c ≠ '0') :
    classify cs = readDigits .decimal false cs := by
  cases cs with
  | nil => rfl
  | cons c cs =>
    have hc := h c rfl
    simp [classify, hc]

/-- The ways a text can open, as far as the choice of a base goes. -/
inductive Opening : List Char → Prop
  | mark {mark : Char} {cs : List Char} : IsMark mark → Opening ('0' :: mark :: cs)
  | zeroPoint {cs : List Char} : Opening ('0' :: '.' :: cs)
  | zero {cs : List Char} : (∀ c ∈ cs.head?, ¬ IsMark c ∧ c ≠ '.') → Opening ('0' :: cs)
  | other {cs : List Char} : (∀ c ∈ cs.head?, c ≠ '0') → Opening cs

theorem opening (cs : List Char) : Opening cs := by
  cases cs with
  | nil =>
    apply Opening.other
    rintro c ⟨⟩
  | cons c cs =>
    by_cases hzero : c = '0'
    · subst hzero
      cases cs with
      | nil =>
        apply Opening.zero
        rintro d ⟨⟩
      | cons d cs =>
        by_cases hmark : IsMark d
        · exact .mark hmark
        · by_cases hpoint : d = '.'
          · subst hpoint
            exact .zeroPoint
          · apply Opening.zero
            rintro e ⟨⟩
            exact ⟨hmark, hpoint⟩
    · apply Opening.other
      rintro d ⟨⟩
      exact hzero

/-! ## The grammar -/

/-- A zero, an x of either case, and hexadecimal digits, of which there is at least one. -/
def IsHexadecimal (cs : List Char) : Prop :=
  ∃ mark ds, cs = '0' :: mark :: ds ∧ IsMark mark ∧ ds ≠ [] ∧ ∀ d ∈ ds, d ∈ Base.hexadecimal.digits

/-- A zero, and octal digits if there are more. -/
def IsOctal (cs : List Char) : Prop := ∃ ds, cs = '0' :: ds ∧ ∀ d ∈ ds, d ∈ Base.octal.digits

/-- Decimal digits, the first of which is no zero. -/
def IsDecimal (cs : List Char) : Prop :=
  ∃ d ds, cs = d :: ds ∧ d ≠ '0' ∧ ∀ c ∈ cs, c ∈ Base.decimal.digits

/-- What can stand in front of a point, or by itself. -/
def IsWhole (cs : List Char) : Prop := cs = [] ∨ IsOctal cs ∨ IsDecimal cs

/-- A whole part, a point, and decimal digits if there are more. -/
def IsFloat (cs : List Char) : Prop :=
  ∃ whole fraction, cs = whole ++ '.' :: fraction ∧ IsWhole whole ∧
    ∀ d ∈ fraction, d ∈ Base.decimal.digits

/-- The numerals of a family. -/
def IsNumeral : Literal → List Char → Prop
  | .int, cs => IsHexadecimal cs ∨ IsWhole cs
  | .float, cs => IsFloat cs
  | .string, _ => False

theorem isWhole_of_octal {cs : List Char} (h : ∀ d ∈ cs, d ∈ Base.octal.digits) :
    IsWhole ('0' :: cs) :=
  Or.inr (Or.inl ⟨cs, rfl, h⟩)

theorem isWhole_of_decimal {cs : List Char} (hzero : ∀ c ∈ cs.head?, c ≠ '0')
    (hcs : ∀ d ∈ cs, d ∈ Base.decimal.digits) : IsWhole cs := by
  cases cs with
  | nil => exact Or.inl rfl
  | cons d ds => exact Or.inr (Or.inr ⟨d, ds, rfl, hzero d rfl, hcs⟩)

/-! ## What is accepted -/

theorem isNumeral_of_classify {cs : List Char} {family : Literal} (h : classify cs = .ok family) :
    IsNumeral family cs := by
  cases opening cs with
  | @mark mark ds hmark =>
    rw [classify_mark hmark] at h
    have hne : ds ≠ [] := by
      rintro rfl
      cases h
    rw [readHexadecimal_of_ne_nil hne, readDigits_hexadecimal_eq_ok_iff] at h
    obtain ⟨rfl, hds⟩ := h
    exact Or.inl ⟨mark, ds, rfl, hmark, hne, hds⟩
  | @zeroPoint fraction =>
    rw [classify_zero_point, readDigits_true_eq_ok_iff] at h
    obtain ⟨rfl, hfraction⟩ := h
    exact ⟨['0'], fraction, rfl, isWhole_of_octal (List.forall_mem_nil _), hfraction⟩
  | zero hds =>
    rw [classify_zero hds, readDigits_false_eq_ok_iff] at h
    rcases h with ⟨rfl, hdigits⟩ | ⟨rfl, -, whole, fraction, rfl, hwhole, hfraction⟩
    · exact Or.inr (isWhole_of_octal hdigits)
    · exact ⟨'0' :: whole, fraction, rfl, isWhole_of_octal hwhole, hfraction⟩
  | other hzero =>
    rw [classify_of_ne_zero hzero, readDigits_false_eq_ok_iff] at h
    rcases h with ⟨rfl, hdigits⟩ | ⟨rfl, -, whole, fraction, rfl, hwhole, hfraction⟩
    · exact Or.inr (isWhole_of_decimal hzero hdigits)
    · have hhead : ∀ c ∈ whole.head?, c ≠ '0' := by
        intro c hc
        apply hzero c
        rw [List.head?_append, Option.mem_def.mp hc]
        rfl
      exact ⟨whole, fraction, rfl, isWhole_of_decimal hhead hwhole, hfraction⟩

/-- A whole part picks a base other than hexadecimal, and leaves it to that base what stands behind
it from the point on. -/
theorem exists_base_of_isWhole {cs : List Char} (h : IsWhole cs) (rest : List Char)
    (hrest : ∀ c ∈ rest.head?, c = '.') :
    ∃ base, base ≠ .hexadecimal ∧ classify (cs ++ rest) = readDigits base false rest := by
  rcases h with rfl | ⟨ds, rfl, hds⟩ | ⟨d, ds, rfl, hd, hds⟩
  · refine ⟨.decimal, Base.noConfusion, classify_of_ne_zero ?_⟩
    rintro c hc rfl
    cases hrest _ hc
  · cases ds with
    | nil =>
      -- a lone zero is decimal in front of a point, and that makes no difference to what follows
      cases rest with
      | nil => exact ⟨.decimal, Base.noConfusion, rfl⟩
      | cons c rest =>
        obtain rfl := hrest c rfl
        exact ⟨.decimal, Base.noConfusion, rfl⟩
    | cons d ds =>
      refine ⟨.octal, Base.noConfusion, ?_⟩
      rw [← readDigits_append hds, List.cons_append]
      apply classify_zero
      rintro c ⟨⟩
      have hd : d ∈ Base.octal.digits := hds d List.mem_cons_self
      refine ⟨?_, ne_point_of_mem_digits hd⟩
      rintro (rfl | rfl)
      · exact absurd hd (by decide)
      · exact absurd hd (by decide)
  · refine ⟨.decimal, Base.noConfusion, ?_⟩
    rw [← readDigits_append hds]
    apply classify_of_ne_zero
    rintro c ⟨⟩
    exact hd

/-- Judging a text accepts the numerals of each family, and nothing else. -/
theorem classify_eq_ok_iff {cs : List Char} {family : Literal} :
    classify cs = .ok family ↔ IsNumeral family cs := by
  constructor
  · exact isNumeral_of_classify
  · intro h
    cases family with
    | int =>
      rcases h with ⟨mark, ds, rfl, hmark, hne, hds⟩ | hwhole
      · rw [classify_mark hmark, readHexadecimal_of_ne_nil hne]
        exact readDigits_of_digits hds
      · obtain ⟨base, -, hread⟩ := exists_base_of_isWhole hwhole [] (by rintro c ⟨⟩)
        rw [List.append_nil] at hread
        exact hread
    | float =>
      obtain ⟨whole, fraction, rfl, hwhole, hfraction⟩ := h
      obtain ⟨base, hbase, hread⟩ :=
        exists_base_of_isWhole hwhole ('.' :: fraction) (by rintro c ⟨⟩; rfl)
      rw [hread, readDigits_point hbase]
      exact readDigits_of_digits hfraction
    | string => exact h.elim

/-- The point makes the fraction decimal, but not the whole part in front of it. -/
example : classify ['0', '1', '7', '.', '9'] = .ok .float ∧
    classify ['0', '8', '.', '5'] = .error (.invalidDigit '8' .octal) := ⟨rfl, rfl⟩

end Numeral

end FrontEnd
