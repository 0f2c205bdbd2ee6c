/-
# FrontEnd.Proofs.Symbol.Growth — a string table only grows.

Interning appends, so every table of a run extends the tables before it.  Handles keep their
meaning under extension: `lookup_of_extends` says that a text keeps its handle, and
`resolve_of_lookup` that the handle of a text resolves to it.
-/
import FrontEnd.Symbol.Table

namespace FrontEnd.Symbol.Table

/-- `t'` holds the texts of `t` at their places, and maybe more behind them. -/
def Extends (t t' : Table) : Prop := t.texts.toList <+: t'.texts.toList

theorem Extends.refl (t : Table) : t.Extends t := List.prefix_rfl

theorem Extends.trans {a b c : Table} (hab : a.Extends b) (hbc : b.Extends c) : a.Extends c :=
  List.IsPrefix.trans hab hbc

theorem lookup_eq (t : Table) (text : String) :
    t.lookup text = (t.texts.toList.idxOf? text).map Symbol.mk := by
  obtain ⟨⟨texts⟩, hits, misses⟩ := t
  simp [lookup]

theorem lookup_eq_some_iff {t : Table} {text : String} {s : Symbol} :
    t.lookup text = some s ↔ t.texts.toList.idxOf? text = some s.index := by
  rw [lookup_eq, Option.map_eq_some_iff]
  constructor
  · rintro ⟨i, hi, rfl⟩
    exact hi
  · intro h
    exact ⟨s.index, h, rfl⟩

theorem lookup_eq_none_iff {t : Table} {text : String} :
    t.lookup text = none ↔ text ∉ t.texts.toList := by
  rw [lookup_eq, Option.map_eq_none_iff, List.idxOf?_eq_none_iff]

theorem mem_of_lookup {t : Table} {text : String} {s : Symbol} (h : t.lookup text = some s) :
    text ∈ t.texts.toList := by
  obtain ⟨hlt, heq, -⟩ := List.idxOf?_eq_some_iff.mp (lookup_eq_some_iff.mp h)
  exact heq ▸ List.getElem_mem hlt

/-- A text keeps its handle. -/
theorem lookup_of_extends {t t' : Table} {text : String} {s : Symbol} (h : t.Extends t')
    (hlookup : t.lookup text = some s) : t'.lookup text = some s := by
  obtain ⟨more, hmore⟩ := h
  rw [lookup_eq, Option.map_eq_some_iff] at hlookup
  obtain ⟨i, hi, rfl⟩ := hlookup
  have hi' : t.texts.toList.findIdx? (· == text) = some i := hi
  rw [lookup_eq, ← hmore, List.idxOf?, List.findIdx?_append, hi']
  rfl

/-- The handle of a text resolves to it. -/
theorem resolve_of_lookup {t : Table} {text : String} {s : Symbol}
    (h : t.lookup text = some s) : t.resolve s = text := by
  rw [lookup_eq, Option.map_eq_some_iff] at h
  obtain ⟨i, hi, rfl⟩ := h
  obtain ⟨hlt, heq, -⟩ := List.idxOf?_eq_some_iff.mp hi
  have hget : t.texts[i]? = some text := by
    rw [← Array.getElem?_toList, List.getElem?_eq_getElem hlt, heq]
  simp [resolve, get, hget]

/-! ## Interning -/

theorem intern_of_lookup {t : Table} {text : String} {s : Symbol} (h : t.lookup text = some s) :
    t.intern text = (s, { t with hits := t.hits + 1 }) := by
  simp [intern, internFull, h]

theorem intern_of_new {t : Table} {text : String} (h : t.lookup text = none) :
    t.intern text =
      (⟨t.texts.size⟩, { t with texts := t.texts.push text, misses := t.misses + 1 }) := by
  simp [intern, internFull, h]

/-- A new text is one entry more, with the handle that is given out. -/
theorem entries_internFull (t : Table) (text : String) :
    let (s, isNew, t') := t.internFull text
    t'.entries = t.entries ++ if isNew then [(s, text)] else [] := by
  cases h : t.lookup text with
  | some s => simp [internFull, h, entries]
  | none => simp [internFull, h, entries, List.mapIdx_append]

theorem extends_intern (t : Table) (text : String) : t.Extends (t.intern text).2 := by
  cases h : t.lookup text with
  | some s =>
    rw [intern_of_lookup h]
    exact Extends.refl t
  | none =>
    rw [intern_of_new h]
    exact ⟨[text], by simp⟩

/-- Interning hands out the handle that looking the text up gives from then on. -/
theorem lookup_intern (t : Table) (text : String) :
    (t.intern text).2.lookup text = some (t.intern text).1 := by
  cases h : t.lookup text with
  | some s =>
    rw [intern_of_lookup h]
    exact h
  | none =>
    have hnot := lookup_eq_none_iff.mp h
    have hfind : t.texts.toList.findIdx? (· == text) = none := List.idxOf?_eq_none_iff.mpr hnot
    rw [intern_of_new h, lookup_eq, Array.toList_push, List.idxOf?, List.findIdx?_append, hfind]
    simp

end FrontEnd.Symbol.Table
