/-
# FrontEnd.Proofs.Lexeme.Numeral — what a well-formed numeral is made of.

Judging a numeral looks at every character of it, and lets only digits of some base, the points and
the hexadecimal mark pass.  So a text that is judged well-formed is one run of numeral characters.
-/
import FrontEnd.Lexeme.Numeral
import FrontEnd.Proofs.Text.CharClass

namespace FrontEnd.Numeral

open CharClass

/-- A digit of any base is a digit or a letter. -/
theorem isNumeralPart_of_accepts {base : Base} {c : Char} (h : base.accepts c = true) :
    isNumeralPart c = true := by
  have hvalue : (Base.digitValue? c).isSome = true := by
    cases hv : Base.digitValue? c with
    | none => simp [Base.accepts, hv] at h
    | some v => rfl
  -- what is neither a digit nor a letter has no value in any base
  have halphanum : c.isAlphanum = true := by
    show ((c.isUpper || c.isLower) || c.isDigit) = true
    rw [Bool.or_eq_true, Bool.or_eq_true]
    by_cases hdigit : c.isDigit = true
    · exact Or.inr hdigit
    · by_cases hlower : c.isLower = true
      · exact Or.inl (Or.inr hlower)
      · by_cases hupper : c.isUpper = true
        · exact Or.inl (Or.inl hupper)
        · simp [Base.digitValue?, hdigit, hlower, hupper] at hvalue
  simp [isNumeralPart, isWordPart, halphanum]

theorem isNumeralPart_of_readDigits {base : Base} {pointSeen : Bool} {cs : List Char}
    {family : Literal} (h : readDigits base pointSeen cs = .ok family) :
    ∀ c ∈ cs, isNumeralPart c = true := by
  fun_induction readDigits base pointSeen cs with
  | case1 => simp
  | case2 => cases h
  | case3 => cases h
  | case4 base pointSeen cs _ _ ih => exact List.forall_mem_cons.mpr ⟨rfl, ih h⟩
  | case5 base pointSeen c cs _ haccepts ih =>
    exact List.forall_mem_cons.mpr ⟨isNumeralPart_of_accepts haccepts, ih h⟩
  | case6 => cases h

theorem isNumeralPart_of_readHexadecimal {cs : List Char} {family : Literal}
    (h : readHexadecimal cs = .ok family) : ∀ c ∈ cs, isNumeralPart c = true := by
  unfold readHexadecimal at h
  split at h
  · cases h
  · exact isNumeralPart_of_readDigits h

/-- A well-formed numeral is one run of numeral characters. -/
theorem isNumeralPart_of_classify {cs : List Char} {family : Literal}
    (h : classify cs = .ok family) : ∀ c ∈ cs, isNumeralPart c = true := by
  unfold classify at h
  split at h
  · have hrest := isNumeralPart_of_readHexadecimal h
    exact List.forall_mem_cons.mpr ⟨rfl, List.forall_mem_cons.mpr ⟨rfl, hrest⟩⟩
  · have hrest := isNumeralPart_of_readHexadecimal h
    exact List.forall_mem_cons.mpr ⟨rfl, List.forall_mem_cons.mpr ⟨rfl, hrest⟩⟩
  · exact isNumeralPart_of_readDigits h
  · exact List.forall_mem_cons.mpr ⟨rfl, isNumeralPart_of_readDigits h⟩
  · exact isNumeralPart_of_readDigits h

theorem readDigits_ne_string {base : Base} {pointSeen : Bool} {cs : List Char} {family : Literal}
    (h : readDigits base pointSeen cs = .ok family) : family ≠ .string := by
  fun_induction readDigits base pointSeen cs with
  | case1 base pointSeen =>
    cases pointSeen <;> cases h <;> exact Literal.noConfusion
  | case2 => cases h
  | case3 => cases h
  | case4 base pointSeen cs _ _ ih => exact ih h
  | case5 base pointSeen c cs _ _ ih => exact ih h
  | case6 => cases h

/-- A numeral is an integer or a float. -/
theorem classify_ne_string {cs : List Char} {family : Literal} (h : classify cs = .ok family) :
    family ≠ .string := by
  have hhexadecimal {ds : List Char} (h : readHexadecimal ds = .ok family) : family ≠ .string := by
    unfold readHexadecimal at h
    split at h
    · cases h
    · exact readDigits_ne_string h
  unfold classify at h
  split at h
  · exact hhexadecimal h
  · exact hhexadecimal h
  · exact readDigits_ne_string h
  · exact readDigits_ne_string h
  · exact readDigits_ne_string h

end FrontEnd.Numeral
