/-
# FrontEnd.Proofs.Text.Slice — a part of a text and the byte offsets around it.

`Stands` says that a text falls into three, and how many bytes the parts have.  Byte offsets that
come about in this way lie between characters (`Stands.isValid_start`), and slicing there gives the
middle part back (`Stands.slice?`).
-/
import FrontEnd.Text.Utf8
import Mathlib.Data.String.Basic

namespace FrontEnd

/-- Between the byte offsets `start` and `stop` of `cs` stands `text`, and after it `behind`. -/
def Stands (cs : List Char) (start stop : Nat) (text behind : List Char) : Prop :=
  ∃ before, cs = before ++ (text ++ behind) ∧ Utf8.size before = start ∧
    Utf8.size (before ++ text) = stop

namespace Utf8

theorem size_eq_utf8Len (cs : List Char) : size cs = String.utf8Len cs := by
  induction cs with
  | nil => rfl
  | cons c cs ih => rw [size_cons, ih, String.utf8Len, Nat.add_comm]

/-- The bytes of a string are those of its characters. -/
theorem size_toList (s : String) : size s.toList = s.utf8ByteSize := by
  rw [size_eq_utf8Len, ← String.utf8ByteSize_ofList, String.ofList_toList]

/-- An offset behind some of the characters lies between characters. -/
theorem isValid_of_append {s : String} {before behind : List Char}
    (h : s.toList = before ++ behind) : (⟨size before⟩ : String.Pos.Raw).IsValid s := by
  refine String.Pos.Raw.isValid_iff_exists_append.mpr ⟨.ofList before, .ofList behind, ?_, ?_⟩
  · rw [← String.ofList_append, ← h, String.ofList_toList]
  · rw [size_eq_utf8Len, ← String.utf8ByteSize_ofList]
    rfl

/-- Two ways to cut a text at the same offset are one. -/
theorem append_inj {a b c d : List Char} (h : a ++ b = c ++ d) (hsize : size a = size c) :
    a = c ∧ b = d := by
  have htake := take?_size_append a b
  have hdrop := drop?_size_append a b
  rw [h, hsize, take?_size_append] at htake
  rw [h, hsize, drop?_size_append] at hdrop
  exact ⟨(Option.some.inj htake).symm, (Option.some.inj hdrop).symm⟩

end Utf8

namespace Stands

variable {cs text behind : List Char} {start stop : Nat}

theorem slice? (h : Stands cs start stop text behind) :
    Utf8.slice? cs start stop = some text := by
  obtain ⟨before, rfl, rfl, rfl⟩ := h
  rw [Utf8.size_append, ← List.append_assoc]
  exact Utf8.slice?_append before text behind

theorem start_lt_stop (h : Stands cs start stop text behind) (htext : text ≠ []) :
    start < stop := by
  obtain ⟨before, -, rfl, rfl⟩ := h
  obtain ⟨c, ds, rfl⟩ := List.exists_cons_of_ne_nil htext
  have := c.utf8Size_pos
  simp only [Utf8.size_append, Utf8.size_cons]
  omega

theorem isValid_start {s : String} (h : Stands s.toList start stop text behind) :
    (⟨start⟩ : String.Pos.Raw).IsValid s := by
  obtain ⟨before, heq, rfl, -⟩ := h
  exact Utf8.isValid_of_append heq

theorem isValid_stop {s : String} (h : Stands s.toList start stop text behind) :
    (⟨stop⟩ : String.Pos.Raw).IsValid s := by
  obtain ⟨before, heq, -, rfl⟩ := h
  exact Utf8.isValid_of_append (heq.trans (List.append_assoc before text behind).symm)

end Stands

end FrontEnd
