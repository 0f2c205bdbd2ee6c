/-
# FrontEnd.Proofs.Symbol.Interning — what interning a list of texts makes of a table.

A text that is new when its turn comes goes behind all others and counts as a miss; any other
counts as a hit.  So a list of texts adds to a table what `newTexts` says: the texts that the table
lacks, each once, in the order in which they first come (`internAll_spec`).
-/
import FrontEnd.Proofs.Symbol.Growth

namespace FrontEnd.Symbol.Table

/-- The texts of a list that the table does not hold, each once, in the order in which they first
come. -/
def newTexts (t : Table) (texts : List String) : List String :=
  (texts.filter (· ∉ t.texts.toList)).eraseDups

theorem internAll_append (t : Table) (a b : List String) :
    t.internAll (a ++ b) = (t.internAll a).internAll b :=
  List.foldl_append

section

variable {t t' : Table} {text : String} {texts : List String}

theorem newTexts_of_mem (h : text ∈ t.texts.toList) :
    t.newTexts (text :: texts) = t.newTexts texts := by
  rw [newTexts, List.filter_cons_of_neg (by simpa using h)]
  rfl

/-- A new text comes first, and is held when the others are looked at. -/
theorem newTexts_of_not_mem (h : text ∉ t.texts.toList)
    (h' : t'.texts.toList = t.texts.toList ++ [text]) :
    t.newTexts (text :: texts) = text :: t'.newTexts texts := by
  rw [newTexts, List.filter_cons_of_pos (by simpa using h), List.eraseDups_cons, List.filter_filter,
    newTexts, h']
  congr 3
  funext other
  simp [Bool.and_comm, Bool.beq_eq_decide_eq]

theorem newTexts_eq_nil (h : ∀ text ∈ texts, text ∈ t.texts.toList) : t.newTexts texts = [] := by
  have hnone : texts.filter (· ∉ t.texts.toList) = [] := by
    rw [List.filter_eq_nil_iff]
    intro text htext
    simpa using h text htext
  rw [newTexts, hnone]
  rfl

end

/-- Interning a list of texts puts the new ones behind the old, counts a miss for each new one, and
a hit for each of the others. -/
theorem internAll_spec (t : Table) (texts : List String) :
    (t.internAll texts).texts.toList = t.texts.toList ++ t.newTexts texts ∧
      (t.internAll texts).misses = t.misses + (t.newTexts texts).length ∧
      (t.internAll texts).hits + (t.newTexts texts).length = t.hits + texts.length := by
  induction texts generalizing t with
  | nil => exact ⟨(List.append_nil _).symm, rfl, rfl⟩
  | cons text texts ih =>
    cases hlookup : t.lookup text with
    | some a =>
      let t' : Table := { t with hits := t.hits + 1 }
      have hrun : t.internAll (text :: texts) = t'.internAll texts :=
        congrArg (fun p => p.2.internAll texts) (intern_of_lookup hlookup)
      have hhits' : t'.hits = t.hits + 1 := rfl
      have hsame : t'.newTexts texts = t.newTexts texts := rfl
      obtain ⟨htexts, hmisses, hhits⟩ := ih t'
      rw [hrun, newTexts_of_mem (mem_of_lookup hlookup), List.length_cons, ← hsame]
      exact ⟨htexts, hmisses, by omega⟩
    | none =>
      let t' : Table := { t with texts := t.texts.push text, misses := t.misses + 1 }
      have hrun : t.internAll (text :: texts) = t'.internAll texts :=
        congrArg (fun p => p.2.internAll texts) (intern_of_new hlookup)
      have hpush : t'.texts.toList = t.texts.toList ++ [text] := Array.toList_push
      have hmisses' : t'.misses = t.misses + 1 := rfl
      have hhits' : t'.hits = t.hits := rfl
      obtain ⟨htexts, hmisses, hhits⟩ := ih t'
      rw [hrun, newTexts_of_not_mem (lookup_eq_none_iff.mp hlookup) hpush, List.length_cons,
        List.length_cons]
      refine ⟨?_, by omega, by omega⟩
      rw [htexts, hpush, List.append_assoc]
      rfl

end FrontEnd.Symbol.Table
