/-
# FrontEnd.Proofs.Scanner.Numeral — the numerals that a scanner hands out.

Judging a text by itself accepts more than a scanner ever puts before it: the empty text passes for an
integer and a lone point for a float.  A scanner takes a numeral only at a digit, or at a point with a
digit behind it, so the text of a numeral that comes out has a digit in it.
-/
import FrontEnd.Proofs.Lexeme.Numeral.Grammar
import FrontEnd.Proofs.Lexeme.Printed
import FrontEnd.Proofs.Scanner.History

namespace FrontEnd

open CharClass

/-- Integers and floats are written from a digit on, or from a point with a digit behind it. -/
theorem Printed.startsNumeral {kind : Kind} {text written : List Char}
    (h : Printed kind text written) (hkind : kind = .literal .int ∨ kind = .literal .float) :
    StartsNumeral text := by
  cases h with
  | numeral hstart => exact hstart
  | keyword | operator | punctuation | identifier | string => rcases hkind with ⟨⟨⟩⟩ | ⟨⟨⟩⟩

theorem exists_digit_of_startsNumeral {text : List Char} (h : StartsNumeral text) :
    ∃ d ∈ text, d.isDigit = true := by
  obtain ⟨d, ds, hd, rfl | rfl⟩ := h
  · exact ⟨d, List.mem_cons_self, hd⟩
  · exact ⟨d, List.mem_cons_of_mem _ List.mem_cons_self, hd⟩

namespace Scanner

/-- A token that comes out in front of the end is written in some way or other. -/
theorem exists_printed_of_mem_run {s : Scanner} {t : Token} (ht : t ∈ s.run.1)
    (hend : t ≠ s.endToken) :
    ∃ written, Printed t.kind (t.text s.run.2.strings).toList written := by
  obtain ⟨xs, hsplits⟩ := exists_splits s.cursor.place s.cursor.rest
  rw [tokens_run hsplits] at ht
  rcases List.mem_append.mp ht with hpiece | hlast
  · obtain ⟨x, hx, hxt⟩ := List.mem_filterMap.mp hpiece
    obtain ⟨payload, hreading, -, -, htext⟩ :=
      Piece.exists_reading_of_token? (knownIn_run hsplits x hx) hxt
    obtain ⟨-, behind, -, -, hreads⟩ := hsplits.exists_reads x hx
    rw [hreading] at hreads
    rw [htext]
    exact ⟨x.text, hreads.printed⟩
  · exact absurd (List.mem_singleton.mp hlast) hend

/-- A text is judged to be an integer if it is a hexadecimal numeral or a whole part, and a float if
it is a whole part, a point and a fraction; otherwise it is neither.  Each integer or float that comes
out of a scanner has a text that is not empty and holds a digit. -/
theorem numerals_exact :
    (∀ cs : List Char,
      (Numeral.classify cs = .ok .int ↔ Numeral.IsHexadecimal cs ∨ Numeral.IsWhole cs) ∧
        (Numeral.classify cs = .ok .float ↔ Numeral.IsFloat cs)) ∧
      ∀ s : Scanner, ∀ t ∈ s.run.1, t.kind = .literal .int ∨ t.kind = .literal .float →
        t.text s.run.2.strings ≠ "" ∧ ∃ d ∈ (t.text s.run.2.strings).toList, d.isDigit = true := by
  refine ⟨fun cs => ⟨Numeral.classify_eq_ok_iff, Numeral.classify_eq_ok_iff⟩, ?_⟩
  intro s t ht hkind
  have hend : t ≠ s.endToken := by
    rintro rfl
    rcases hkind with ⟨⟨⟩⟩ | ⟨⟨⟩⟩
  obtain ⟨written, hprinted⟩ := exists_printed_of_mem_run ht hend
  obtain ⟨d, hd, hdigit⟩ := exists_digit_of_startsNumeral (hprinted.startsNumeral hkind)
  refine ⟨?_, d, hd, hdigit⟩
  intro hempty
  rw [hempty] at hd
  cases hd

/-- A float with an octal whole part, behind a numeral that is none. -/
theorem numerals_exact_octal_whole :
    let s := ofText (.withoutLog .standard (.ofDisk .fresh fun _ => 0)) "08 017.9"
    let t : Token := ⟨.literal .float, some ⟨0⟩, ⟨3, 8, 0, 3⟩⟩
    t ∈ s.run.1 ∧ t.kind = .literal .float ∧ t.text s.run.2.strings = "017.9" ∧
      Numeral.IsFloat "017.9".toList ∧
      t.text s.run.2.strings ≠ "" ∧ ∃ d ∈ (t.text s.run.2.strings).toList, d.isDigit = true := by
  intro s t
  have hmem : t ∈ s.run.1 := by decide +kernel
  have htext : t.text s.run.2.strings = "017.9" := by decide +kernel
  obtain ⟨hclassify, hrun⟩ := numerals_exact
  exact ⟨hmem, rfl, htext, (hclassify _).2.mp rfl, hrun s t hmem (Or.inr rfl)⟩

end Scanner

end FrontEnd
