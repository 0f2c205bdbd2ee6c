/-
# FrontEnd.Proofs.Lexeme.Numeral.Viable — where a text stops being the beginning of a numeral.

A text is viable as long as something can be put behind it that makes it a numeral.  A text that is
judged to be no numeral has a first character that ends this, and that character is the one to blame:
with the text in front of it, it decides the error, whatever stands behind (`classify_breaks`).  Only
a hexadecimal mark without digits is no numeral although it is viable to its end.
-/
import FrontEnd.Proofs.Lexeme.Numeral.Grammar

namespace FrontEnd.Numeral

/-! ## What the error says -/

/-- The text starts with a zero and an x of either case. -/
def HasMark (cs : List Char) : Prop := ['0', 'x'] <+: cs ∨ ['0', 'X'] <+: cs

instance (cs : List Char) : Decidable (HasMark cs) := inferInstanceAs (Decidable (_ ∨ _))

/-- The base in which a numeral goes on behind `cs`. -/
def baseBehind (cs : List Char) : Base :=
  if HasMark cs then .hexadecimal
  else if cs.head? = some '0' ∧ 'x' ∉ cs ∧ 'X' ∉ cs ∧ '.' ∉ cs then .octal
  else .decimal

/-- What is wrong when `c` cannot go on behind `cs`. -/
def errorAt (cs : List Char) (c : Char) : LexicalError :=
  if c = '.' then if HasMark cs then .hexFloat else .multiplePoints
  else .invalidDigit c (baseBehind cs)

/-- Something can stand behind the text that makes it a numeral. -/
def Viable (cs : List Char) : Prop := ∃ rest family, classify (cs ++ rest) = .ok family

/-- The text `cs` is viable as far as `front` and no further; `c` is what ends it. -/
structure Breaks (cs front : List Char) (c : Char) (rest : List Char) : Prop where
  split : cs = front ++ c :: rest
  viable : Viable front
  dead : ¬ Viable (front ++ [c])

/-! ## The base behind a text -/

theorem hasMark_cons_cons {c d : Char} {cs : List Char} :
    HasMark (c :: d :: cs) ↔ c = '0' ∧ IsMark d := by
  simp [HasMark, IsMark, List.cons_prefix_cons, and_or_left, eq_comm]

theorem not_hasMark_zero {cs : List Char} (h : ∀ c ∈ cs.head?, ¬ IsMark c ∧ c ≠ '.') :
    ¬ HasMark ('0' :: cs) := by
  cases cs with
  | nil => decide
  | cons c cs =>
    rw [hasMark_cons_cons]
    rintro ⟨-, hmark⟩
    exact (h c rfl).1 hmark

theorem errorAt_eq (cs : List Char) (c : Char) :
    errorAt cs c =
      if c = '.' then if baseBehind cs = .hexadecimal then .hexFloat else .multiplePoints
      else .invalidDigit c (baseBehind cs) := by
  have hbase : baseBehind cs = .hexadecimal ↔ HasMark cs := by
    unfold baseBehind
    split_ifs <;> simp_all
  simp only [errorAt, hbase]

theorem baseBehind_mark {mark : Char} (h : IsMark mark) (cs : List Char) :
    baseBehind ('0' :: mark :: cs) = .hexadecimal :=
  if_pos (hasMark_cons_cons.mpr ⟨rfl, h⟩)

theorem baseBehind_zero_point (cs : List Char) : baseBehind ('0' :: '.' :: cs) = .decimal := by
  have hmark : ¬ HasMark ('0' :: '.' :: cs) := by
    rw [hasMark_cons_cons]
    rintro ⟨-, h | h⟩
    · cases h
    · cases h
  simp [baseBehind, hmark]

theorem baseBehind_of_ne_zero {cs : List Char} (h : ∀ c ∈ cs.head?, c ≠ '0') :
    baseBehind cs = .decimal := by
  have hhead : cs.head? ≠ some '0' := fun hzero => h '0' hzero rfl
  have hmark : ¬ HasMark cs := by
    rintro (⟨rest, rfl⟩ | ⟨rest, rfl⟩)
    · exact hhead rfl
    · exact hhead rfl
  simp [baseBehind, hmark, hhead]

/-- An octal numeral goes on in octal up to the point, and in decimal behind it. -/
theorem baseBehind_zero {cs : List Char} (h : ∀ c ∈ cs.head?, ¬ IsMark c ∧ c ≠ '.')
    {family : Literal} (hread : readDigits .octal false cs = .ok family) :
    baseBehind ('0' :: cs) = if '.' ∈ cs then .decimal else .octal := by
  have hmark := not_hasMark_zero h
  -- what has been read is digits and a point, so no x is among it
  have hx : ∀ c, IsMark c → c ∉ cs := by
    have hnone : ∀ c, IsMark c → c ∉ Base.octal.digits ∧ c ∉ Base.decimal.digits ∧ c ≠ '.' := by
      rintro c (rfl | rfl) <;> decide
    intro c hc hmem
    obtain ⟨hoctal, hdecimal, hpoint⟩ := hnone c hc
    rcases readDigits_false_eq_ok_iff.mp hread with
      ⟨-, hdigits⟩ | ⟨-, -, whole, fraction, rfl, hwhole, hfraction⟩
    · exact hoctal (hdigits c hmem)
    · rcases List.mem_append.mp hmem with hw | hf
      · exact hoctal (hwhole c hw)
      · rcases List.mem_cons.mp hf with heq | hf
        · exact hpoint heq
        · exact hdecimal (hfraction c hf)
  have hsmall := hx 'x' (Or.inl rfl)
  have hcapital := hx 'X' (Or.inr rfl)
  by_cases hpoint : '.' ∈ cs
  · simp [baseBehind, hmark, hpoint]
  · simp [baseBehind, hmark, hsmall, hcapital, hpoint]

/-! ## The first character that cannot go on -/

/-- Reading digits fails at the first character that cannot go on behind the others.  In front of it
everything is in order, and behind it nothing matters. -/
theorem exists_break_of_readDigits {base : Base} {pointSeen : Bool} {cs : List Char}
    {e : LexicalError} (h : readDigits base pointSeen cs = .error e) :
    ∃ front c rest family, cs = front ++ c :: rest ∧
      readDigits base pointSeen front = .ok family ∧
      (∀ rest', readDigits base pointSeen (front ++ c :: rest') = .error e) ∧
      e = let last := if '.' ∈ front then .decimal else base
        if c = '.' then if last = .hexadecimal then .hexFloat else .multiplePoints
        else .invalidDigit c last := by
  fun_induction readDigits base pointSeen cs with
  | case1 => cases h
  | case2 pointSeen cs =>
    obtain rfl := Except.error.inj h
    exact ⟨[], '.', cs, _, rfl, rfl, fun _ => rfl, rfl⟩
  | case3 base cs hbase =>
    obtain rfl := Except.error.inj h
    refine ⟨[], '.', cs, _, rfl, rfl, ?_, ?_⟩
    · intro rest'
      simp [readDigits, hbase]
    · simp [hbase]
  | case4 base pointSeen cs hbase hseen ih =>
    obtain ⟨front, c, rest, family, rfl, hfront, hrest, he⟩ := ih h
    have hpoint (ds : List Char) :
        readDigits base pointSeen ('.' :: ds) = readDigits .decimal true ds := by
      simp [readDigits, hbase, hseen]
    refine ⟨'.' :: front, c, rest, family, rfl, ?_, ?_, ?_⟩
    · rw [hpoint, hfront]
    · intro rest'
      rw [List.cons_append, hpoint, hrest]
    · rw [he]
      simp
  | case5 base pointSeen d cs hpoint haccepts ih =>
    obtain ⟨front, c, rest, family, rfl, hfront, hrest, he⟩ := ih h
    have hdigit (ds : List Char) :
        readDigits base pointSeen (d :: ds) = readDigits base pointSeen ds := by
      rw [readDigits, if_neg hpoint, if_pos haccepts]
    refine ⟨d :: front, c, rest, family, rfl, ?_, ?_, ?_⟩
    · rw [hdigit, hfront]
    · intro rest'
      rw [List.cons_append, hdigit, hrest]
    · have hmem : '.' ∈ d :: front ↔ '.' ∈ front := by
        rw [List.mem_cons, or_iff_right (Ne.symm hpoint)]
      simp only [hmem]
      exact he
  | case6 base pointSeen c cs hpoint haccepts =>
    obtain rfl := Except.error.inj h
    refine ⟨[], c, cs, _, rfl, rfl, ?_, ?_⟩
    · intro rest'
      rw [List.nil_append, readDigits, if_neg hpoint, if_neg haccepts]
    · simp [hpoint]

theorem head?_append_cons (front : List Char) (c : Char) (rest rest' : List Char) :
    (front ++ c :: rest).head? = (front ++ c :: rest').head? := by
  rw [List.head?_append, List.head?_append]
  rfl

theorem mem_head?_append {front rest : List Char} {c : Char} (h : c ∈ front.head?) :
    c ∈ (front ++ rest).head? := by
  rw [List.head?_append, Option.mem_def.mp h]
  rfl

/-- A text that is no numeral is a mark without digits, or is viable up to a character that decides
the error. -/
theorem exists_break_of_classify {cs : List Char} {e : LexicalError} (h : classify cs = .error e) :
    ((cs = ['0', 'x'] ∨ cs = ['0', 'X']) ∧ e = .missingHexDigits) ∨
      ∃ front c rest, cs = front ++ c :: rest ∧ Viable front ∧ e = errorAt front c ∧
        ∀ rest', classify (front ++ c :: rest') = .error e := by
  cases opening cs with
  | @mark mark ds hmark =>
    rw [classify_mark hmark] at h
    by_cases hne : ds = []
    · subst hne
      obtain rfl := Except.error.inj h
      refine Or.inl ⟨?_, rfl⟩
      rcases hmark with rfl | rfl
      · exact Or.inl rfl
      · exact Or.inr rfl
    · rw [readHexadecimal_of_ne_nil hne] at h
      obtain ⟨front, c, rest, family, rfl, hfront, hrest, he⟩ := exists_break_of_readDigits h
      obtain ⟨-, hdigits⟩ := readDigits_hexadecimal_eq_ok_iff.mp hfront
      have hpoint : '.' ∉ front := fun hmem => ne_point_of_mem_digits (hdigits _ hmem) rfl
      refine Or.inr ⟨'0' :: mark :: front, c, rest, rfl, ⟨['0'], .int, ?_⟩, ?_, ?_⟩
      · -- the mark alone is no numeral, but one digit more makes it one
        have hone : ∀ d ∈ front ++ ['0'], d ∈ Base.hexadecimal.digits := by
          intro d hd
          rcases List.mem_append.mp hd with hd | hd
          · exact hdigits d hd
          · rw [List.mem_singleton.mp hd]
            decide
        rw [List.cons_append, List.cons_append, classify_mark hmark,
          readHexadecimal_of_ne_nil (by simp)]
        exact readDigits_of_digits hone
      · rw [he, errorAt_eq, baseBehind_mark hmark]
        simp [hpoint]
      · intro rest'
        rw [List.cons_append, List.cons_append, classify_mark hmark,
          readHexadecimal_of_ne_nil (by simp)]
        exact hrest rest'
  | zeroPoint =>
    rw [classify_zero_point] at h
    obtain ⟨front, c, rest, family, rfl, hfront, hrest, he⟩ := exists_break_of_readDigits h
    refine Or.inr ⟨'0' :: '.' :: front, c, rest, rfl, ⟨[], family, ?_⟩, ?_, hrest⟩
    · rw [List.append_nil]
      exact hfront
    · rw [he, errorAt_eq, baseBehind_zero_point]
      simp
  | zero hds =>
    rw [classify_zero hds] at h
    obtain ⟨front, c, rest, family, rfl, hfront, hrest, he⟩ := exists_break_of_readDigits h
    have hhead : ∀ d ∈ front.head?, ¬ IsMark d ∧ d ≠ '.' := fun d hd => hds d (mem_head?_append hd)
    refine Or.inr ⟨'0' :: front, c, rest, rfl, ⟨[], family, ?_⟩, ?_, ?_⟩
    · rw [List.append_nil, classify_zero hhead, hfront]
    · rw [he, errorAt_eq, baseBehind_zero hhead hfront]
    · intro rest'
      rw [head?_append_cons front c rest rest'] at hds
      rw [List.cons_append, classify_zero hds, hrest]
  | other hzero =>
    rw [classify_of_ne_zero hzero] at h
    obtain ⟨front, c, rest, family, rfl, hfront, hrest, he⟩ := exists_break_of_readDigits h
    have hhead : ∀ d ∈ front.head?, d ≠ '0' := fun d hd => hzero d (mem_head?_append hd)
    refine Or.inr ⟨front, c, rest, rfl, ⟨[], family, ?_⟩, ?_, ?_⟩
    · rw [List.append_nil, classify_of_ne_zero hhead, hfront]
    · rw [he, errorAt_eq, baseBehind_of_ne_zero hhead]
      simp
    · intro rest'
      rw [head?_append_cons front c rest rest'] at hzero
      rw [classify_of_ne_zero hzero, hrest]

/-! ## The break is where viability ends -/

theorem Viable.of_append {a b : List Char} (h : Viable (a ++ b)) : Viable a := by
  obtain ⟨rest, family, hok⟩ := h
  refine ⟨b ++ rest, family, ?_⟩
  rwa [← List.append_assoc]

/-- What fails with everything behind it is not viable. -/
theorem not_viable_of_error {cs : List Char} {e : LexicalError}
    (h : ∀ rest, classify (cs ++ rest) = .error e) : ¬ Viable cs := by
  rintro ⟨rest, family, hok⟩
  rw [h rest] at hok
  cases hok

section

variable {cs front front' rest rest' : List Char} {c c' : Char}

/-- One break cannot come in front of another: the text up to the other is viable. -/
theorem Breaks.length_le (h : Breaks cs front c rest) (h' : Breaks cs front' c' rest') :
    front'.length ≤ front.length := by
  apply Nat.le_of_not_lt
  intro hlt
  have hfront : front ++ [c] <+: cs := ⟨rest, by rw [h.split]; simp⟩
  have hfront' : front' <+: cs := ⟨c' :: rest', h'.split.symm⟩
  have hpre : front ++ [c] <+: front' := by
    apply List.prefix_of_prefix_length_le hfront hfront'
    rw [List.length_append, List.length_singleton]
    omega
  obtain ⟨more, rfl⟩ := hpre
  exact h.dead h'.viable.of_append

/-- A text breaks in one place at most. -/
theorem Breaks.unique (h : Breaks cs front c rest) (h' : Breaks cs front' c' rest') :
    front' = front ∧ c' = c ∧ rest' = rest := by
  have hlength := Nat.le_antisymm (h.length_le h') (h'.length_le h)
  have hsplit : front' ++ c' :: rest' = front ++ c :: rest := h'.split.symm.trans h.split
  obtain ⟨hfront, htail⟩ := List.append_inj hsplit hlength
  obtain ⟨hc, hrest⟩ := List.cons.inj htail
  exact ⟨hfront, hc, hrest⟩

end

/-- A text is judged to be no numeral in two cases.  It may be a hexadecimal mark and nothing else;
then digits are missing.  Or it breaks, in just one place, between a front that can still become a
numeral and a character that ends this; then front and character decide the error, and what follows
them has no influence on it. -/
theorem classify_breaks (cs : List Char) (e : LexicalError) :
    classify cs = .error e ↔
      ((cs = ['0', 'x'] ∨ cs = ['0', 'X']) ∧ e = .missingHexDigits) ∨
        ∃ front c rest, Breaks cs front c rest ∧
          (∀ front' c' rest', Breaks cs front' c' rest' →
            front' = front ∧ c' = c ∧ rest' = rest) ∧
          e = errorAt front c ∧ ∀ rest', classify (front ++ c :: rest') = .error e := by
  constructor
  · intro h
    rcases exists_break_of_classify h with hmark | ⟨front, c, rest, hcs, hviable, he, hrest⟩
    · exact Or.inl hmark
    · have hdead : ¬ Viable (front ++ [c]) := by
        apply not_viable_of_error (e := e)
        intro rest'
        rw [List.append_assoc]
        exact hrest rest'
      have hbreaks : Breaks cs front c rest := ⟨hcs, hviable, hdead⟩
      exact Or.inr ⟨front, c, rest, hbreaks, fun _ _ _ => hbreaks.unique, he, hrest⟩
  · rintro (⟨rfl | rfl, rfl⟩ | ⟨front, c, rest, hbreaks, -, -, hrest⟩)
    · rfl
    · rfl
    · rw [hbreaks.split]
      exact hrest rest

/-- A zero may be followed by octal digits or a point, so it is at the eight that this ends. -/
example : Breaks ['0', '8', '.', '5'] ['0'] '8' ['.', '5'] :=
  ⟨rfl, ⟨[], .int, rfl⟩, not_viable_of_error fun _ => rfl⟩

end FrontEnd.Numeral
