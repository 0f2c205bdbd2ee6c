/-
# FrontEnd.Proofs.Scanner.Stable — text added behind changes nothing but the last piece.

A piece is read in view of the one character behind it, never of what follows that character
(`Lexeme.Reads`).  So when text is added, only a piece that reaches to the very end of the old text
can come to read otherwise.  `Splits.append` says so of a splitting, and `run_append` of a run:
whatever ends in front of the end of the text comes out again at its old place in the order.
-/
import FrontEnd.Proofs.Scanner.History
import FrontEnd.Proofs.Text.Slice

namespace FrontEnd

/-- No text, no pieces. -/
theorem Splits.eq_nil {p : Place} {xs : List Piece} (h : Splits p [] xs) : xs = [] := by
  cases xs with
  | nil => rfl
  | cons x xs =>
    obtain ⟨blanks, rest, hempty, -, -, hreads, -⟩ := splits_cons_iff.mp h
    obtain ⟨c, cs, htext, -⟩ := hreads.exists_cons
    simp [htext] at hempty

/-- When text is added, all pieces are kept, save for a last one that reaches to the end. -/
theorem Splits.append {p : Place} {a : List Char} {xs : List Piece} (h : Splits p a xs)
    (b : List Char) :
    ∃ kept last more, xs = kept ++ last ∧ (∀ x ∈ last, x.stop = p.after a) ∧
      Splits p (a ++ b) (kept ++ more) := by
  induction h with
  | @blank p blanks _ =>
    obtain ⟨more, hmore⟩ := exists_splits p (blanks ++ b)
    exact ⟨[], [], more, rfl, List.forall_mem_nil _, hmore⟩
  | @piece blanks rest x xs p hblanks hplace hreads hrest ih =>
    have hstop : p.after (blanks ++ (x.text ++ rest)) = x.stop.after rest := by
      rw [Place.after_append, Place.after_append, ← hplace, Piece.stop]
    cases rest with
    | nil =>
      -- nothing stands behind the piece, so the added text can change it
      obtain rfl := hrest.eq_nil
      obtain ⟨more, hmore⟩ := exists_splits p (blanks ++ (x.text ++ []) ++ b)
      exact ⟨[], [x], more, rfl, List.forall_mem_singleton.mpr hstop.symm, hmore⟩
    | cons c cs =>
      -- the character behind the piece is the same with the added text and without it
      obtain ⟨kept, last, more, rfl, hlast, hsplits⟩ := ih
      refine ⟨x :: kept, last, more, rfl, ?_, ?_⟩
      · rw [hstop]
        exact hlast
      · rw [List.append_assoc, List.append_assoc]
        exact .piece hblanks hplace hreads hsplits

/-- What stands in a list in front of a tail that lacks it stays where it is when the tail is
exchanged. -/
theorem getElem?_append_of_not_mem {α : Type} {kept tail : List α} {i : Nat} {x : α}
    (h : (kept ++ tail)[i]? = some x) (hx : x ∉ tail) (other : List α) :
    (kept ++ other)[i]? = some x := by
  rcases Nat.lt_or_ge i kept.length with hlt | hge
  · rw [List.getElem?_append_left hlt] at h ⊢
    exact h
  · rw [List.getElem?_append_right hge] at h
    exact absurd (List.mem_of_getElem? h) hx

namespace Scanner

/-- Each token and each report of a text whose stretch ends in front of the end of the text comes
out again, at the same index, when more text follows.  The end token never does; it stands at the
end. -/
theorem run_append (c c₁ : Compilation) (a b : String) :
    (∀ (i : Nat) (t : Token.Plain), (ofText c₁ a).plainTokens[i]? = some t →
        t.span.stop < a.utf8ByteSize → (ofText c (a ++ b)).plainTokens[i]? = some t) ∧
      ∀ (i : Nat) (r : Diagnostic.Content) (span : Span), (ofText c₁ a).reports[i]? = some r →
        r.span = some span → span.stop < a.utf8ByteSize →
        (ofText c (a ++ b)).reports[i]? = some r := by
  obtain ⟨xs, hxs⟩ := exists_splits .origin a.toList
  obtain ⟨kept, last, more, rfl, hlast, hboth⟩ := hxs.append b.toList
  rw [← String.toList_append] at hboth
  have hend : (Place.origin.after a.toList).offset = a.utf8ByteSize := by
    rw [Place.offset_after, Utf8.size_toList]
    exact Nat.zero_add _
  have hstop : ∀ x ∈ last, x.span.stop = a.utf8ByteSize := by
    intro x hx
    rw [← hend, ← hlast x hx]
    rfl
  constructor
  · intro i t ht hlt
    rw [plainTokens_eq (s := ofText c₁ a) hxs, List.filterMap_append, List.append_assoc] at ht
    rw [plainTokens_eq (s := ofText c _) hboth, List.filterMap_append, List.append_assoc]
    refine getElem?_append_of_not_mem ht ?_ _
    intro hmem
    rcases List.mem_append.mp hmem with hpiece | htoken
    · obtain ⟨x, hx, hxt⟩ := List.mem_filterMap.mp hpiece
      rw [Piece.span_of_plain? hxt, hstop x hx] at hlt
      exact Nat.lt_irrefl _ hlt
    · rw [List.mem_singleton.mp htoken] at hlt
      exact Nat.lt_irrefl _ (hend ▸ hlt)
  · intro i r span hr hspan hlt
    rw [reports_eq (s := ofText c₁ a) hxs, List.filterMap_append] at hr
    rw [reports_eq (s := ofText c _) hboth, List.filterMap_append]
    refine getElem?_append_of_not_mem hr ?_ _
    intro hmem
    obtain ⟨x, hx, hxr⟩ := List.mem_filterMap.mp hmem
    obtain rfl := Option.some.inj (hspan.symm.trans (Piece.span_of_report? hxr))
    rw [hstop x hx] at hlt
    exact Nat.lt_irrefl _ hlt

/-- The less-than sign at the end of the first text becomes another token; the identifier and the
bad numeral in front of it stay. -/
theorem run_append_less_than :
    let c : Compilation := .withoutLog .standard (.ofDisk .fresh fun _ => 0)
    let word : Token.Plain := ⟨.identifier, "ab", ⟨0, 2, 0, 0⟩⟩
    let error : Diagnostic.Content := LexicalError.multiplePoints.content ⟨5, 10, 0, 5⟩
    (ofText c "ab @ 1.2.3 <").plainTokens[0]? = some word ∧
      word.span.stop < "ab @ 1.2.3 <".utf8ByteSize ∧
      (ofText c ("ab @ 1.2.3 <" ++ "= c")).plainTokens[0]? = some word ∧
      (ofText c "ab @ 1.2.3 <").reports[1]? = some error ∧
      (ofText c ("ab @ 1.2.3 <" ++ "= c")).reports[1]? = some error := by
  intro c word error
  have hword : (ofText c "ab @ 1.2.3 <").plainTokens[0]? = some word := by decide +kernel
  have herror : (ofText c "ab @ 1.2.3 <").reports[1]? = some error := by decide +kernel
  obtain ⟨htokens, hreports⟩ := run_append c c "ab @ 1.2.3 <" "= c"
  exact ⟨hword, by decide, htokens 0 word hword (by decide), herror,
    hreports 1 error ⟨5, 10, 0, 5⟩ herror rfl (by decide)⟩

end Scanner

end FrontEnd
