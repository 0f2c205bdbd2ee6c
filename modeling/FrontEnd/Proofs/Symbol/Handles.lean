/-
# FrontEnd.Proofs.Symbol.Handles — handles and texts belong together one to one.

A table that has come about by interning holds each of its texts once (`Distinct`).  Then looking up
a text and getting the text of a handle are inverse to each other (`lookup_eq_some_iff_get`), which
is what all other questions to a table come down to (`Agrees`).  A handle keeps its text for good,
because tables only grow (`get_of_extends`).

`interning_law` puts this together for a table that has been filled from the start.  Questions hand
no table back, so it makes no difference how many are asked between two requests.
-/
import FrontEnd.Proofs.Symbol.Interning
import Mathlib.Data.List.Nodup

namespace FrontEnd.Symbol.Table

/-! ## No text stands in a table twice -/

/-- No text stands in the table twice. -/
def Distinct (t : Table) : Prop := t.texts.toList.Nodup

theorem distinct_empty : empty.Distinct := List.nodup_nil

theorem Distinct.intern {t : Table} (h : t.Distinct) (text : String) :
    (t.intern text).2.Distinct := by
  cases hlookup : t.lookup text with
  | some s =>
    rw [intern_of_lookup hlookup]
    exact h
  | none =>
    have hnew := lookup_eq_none_iff.mp hlookup
    rw [intern_of_new hlookup, Distinct, Array.toList_push, ← List.concat_eq_append]
    exact List.Nodup.concat hnew h

theorem Distinct.internAll {t : Table} (h : t.Distinct) (texts : List String) :
    (t.internAll texts).Distinct := by
  induction texts generalizing t with
  | nil => exact h
  | cons text texts ih => exact ih (h.intern text)

/-! ## Questions to a table -/

section Questions

variable {t t' : Table} {text : String} {s : Symbol}

theorem get_eq (t : Table) (s : Symbol) : t.get s = t.texts.toList[s.index]? := by
  rw [get, Array.getElem?_toList]

/-- A handle keeps its text. -/
theorem get_of_extends (h : t.Extends t') (hget : t.get s = some text) :
    t'.get s = some text := by
  rw [get_eq] at hget ⊢
  obtain ⟨hlt, rfl⟩ := List.getElem?_eq_some_iff.mp hget
  exact List.prefix_iff_getElem?.mp h s.index hlt

/-- The text of a handle is found under that handle, and under no other, if it is there once. -/
theorem lookup_eq_some_iff_get (h : t.Distinct) : t.lookup text = some s ↔ t.get s = some text := by
  rw [lookup_eq_some_iff, List.idxOf?_eq_some_iff, get_eq, List.getElem?_eq_some_iff]
  constructor
  · rintro ⟨hlt, heq, -⟩
    exact ⟨hlt, heq⟩
  · rintro ⟨hlt, heq⟩
    refine ⟨hlt, heq, ?_⟩
    intro j hj hother
    have hsame : j = s.index := (List.Nodup.getElem_inj_iff h).mp (hother.trans heq.symm)
    exact Nat.ne_of_lt hj hsame

/-- What a table says of a text and a handle, asked in all the ways there are. -/
structure Agrees (t : Table) (text : String) (s : Symbol) : Prop where
  lookup_iff : t.lookup text = some s ↔ t.get s = some text
  contains_iff : t.contains text = true ↔ ∃ a, t.lookup text = some a
  isValid_iff : t.isValid s = true ↔ ∃ x, t.get s = some x
  tryResolve_iff : (∃ x, t.tryResolve s = .ok x) ↔ ∃ x, t.get s = some x
  resolve_of_get : ∀ x, t.get s = some x → t.resolve s = x
  resolve_of_none : t.get s = none → t.resolve s = ""

theorem contains_iff_mem : t.contains text = true ↔ text ∈ t.texts.toList := by
  rw [contains, Array.contains_iff_mem, Array.mem_def]

theorem exists_lookup_iff_mem : (∃ a, t.lookup text = some a) ↔ text ∈ t.texts.toList := by
  rw [← Option.ne_none_iff_exists', Ne, lookup_eq_none_iff, Classical.not_not]

theorem isValid_iff_get : t.isValid s = true ↔ ∃ x, t.get s = some x := by
  rw [isValid, decide_eq_true_iff, get]
  simp [Array.getElem?_eq_some_iff]

theorem tryResolve_of_get (h : t.get s = some text) : t.tryResolve s = .ok text := by
  rw [tryResolve, h]

theorem tryResolve_of_none (h : t.get s = none) :
    t.tryResolve s = .error (.invalidHandle s t.size) := by
  rw [tryResolve, h]

theorem Distinct.agrees (h : t.Distinct) (text : String) (s : Symbol) : t.Agrees text s where
  lookup_iff := lookup_eq_some_iff_get h
  contains_iff := contains_iff_mem.trans exists_lookup_iff_mem.symm
  isValid_iff := isValid_iff_get
  tryResolve_iff := by
    cases hget : t.get s with
    | some x => exact iff_of_true ⟨x, tryResolve_of_get hget⟩ ⟨x, rfl⟩
    | none =>
      rw [tryResolve_of_none hget]
      exact iff_of_false nofun nofun
  resolve_of_get := by
    intro x hx
    rw [resolve, hx]
    rfl
  resolve_of_none := by
    intro hnone
    rw [resolve, hnone]
    rfl

end Questions

/-! ## Filling a table from the start -/

/-- A text is new just when the table does not hold it. -/
theorem isNew_internFull (t : Table) (text : String) :
    (t.internFull text).2.1 = true ↔ text ∉ t.texts.toList := by
  rw [← lookup_eq_none_iff, internFull]
  cases t.lookup text with
  | some s => exact iff_of_false Bool.false_ne_true (Option.some_ne_none s)
  | none => exact iff_of_true rfl rfl

/-- The texts of a table that has been filled from the start are those it was asked for, each once,
in the order in which they first came. -/
theorem texts_internAll_empty (texts : List String) :
    (empty.internAll texts).texts.toList = texts.eraseDups := by
  rw [(empty.internAll_spec texts).1]
  show (texts.filter (· ∉ [])).eraseDups = texts.eraseDups
  rw [List.filter_eq_self.mpr (by simp)]

theorem extends_internAll (t : Table) (texts : List String) : t.Extends (t.internAll texts) := by
  induction texts generalizing t with
  | nil => exact .refl t
  | cons text texts ih => exact (t.extends_intern text).trans (ih (t.intern text).2)

section Request

variable (before later : List String) (text : String)

/-- The table that a request leaves, by way of the requests before it. -/
theorem internAll_request :
    (((empty.internAll before).internFull text).2.2).internAll later =
      empty.internAll (before ++ text :: later) := by
  rw [internAll_append]
  rfl

/-- From a request on, whatever others follow, its handle has its text. -/
theorem get_request :
    (empty.internAll (before ++ text :: later)).get ((empty.internAll before).internFull text).1 =
      some text := by
  have hdistinct := (distinct_empty.internAll before).intern text
  have hget := (lookup_eq_some_iff_get hdistinct).mp (lookup_intern (empty.internAll before) text)
  rw [← internAll_request]
  exact get_of_extends (extends_internAll _ later) hget

/-- A request is answered with the place of its text among the distinct texts of all requests. -/
theorem idxOf?_request :
    (before ++ text :: later).eraseDups.idxOf? text =
      some ((empty.internAll before).internFull text).1.index := by
  have hdistinct := distinct_empty.internAll (before ++ text :: later)
  rw [← texts_internAll_empty, ← lookup_eq_some_iff, lookup_eq_some_iff_get hdistinct]
  exact get_request before later text

end Request

/-- Two requests are answered alike just when they are for the same text. -/
theorem request_eq_iff {before before' later later' : List String} {text text' : String}
    (h : before' ++ text' :: later' = before ++ text :: later) :
    ((empty.internAll before').internFull text').1 = ((empty.internAll before).internFull text).1 ↔
      text' = text := by
  constructor
  · intro hsame
    -- The table of all requests holds one text under the handle that both were answered with.
    have hget := get_request before later text
    have hget' := get_request before' later' text'
    rw [h, hsame, hget] at hget'
    exact (Option.some.inj hget').symm
  · rintro rfl
    have hindex := idxOf?_request before later text'
    have hindex' := idxOf?_request before' later' text'
    rw [h, hindex] at hindex'
    exact congrArg Symbol.mk (Option.some.inj hindex').symm

/-- A request that finds its text is a hit, and one that does not adds it. -/
theorem counts_internAll_empty (texts : List String) :
    let t := empty.internAll texts
    t.misses = t.texts.size ∧ t.hits + t.misses = texts.length := by
  obtain ⟨hnew, hmisses, hhits⟩ := empty.internAll_spec texts
  have hsize : (empty.internAll texts).texts.size = (empty.newTexts texts).length := by
    rw [← Array.length_toList, hnew]
    exact congrArg List.length (List.nil_append _)
  have hnone : empty.misses = 0 ∧ empty.hits = 0 := ⟨rfl, rfl⟩
  dsimp only
  omega

/-- A table that has been filled from the start holds the texts it was asked for, each once, in the
order in which they first came.  A request is answered with the place of its text among these, and
is said to be new just when it is the first for its text; its handle has its text from then on, and
two requests are answered alike just when they are for the same text.  All questions to the table
agree with each other, and its counts with the requests. -/
theorem interning_law (texts : List String) :
    (empty.internAll texts).entries = texts.eraseDups.mapIdx (fun i text => (⟨i⟩, text)) ∧
      (∀ before text later, texts = before ++ text :: later →
        let answer := (empty.internAll before).internFull text
        (empty.internAll before).intern text = (answer.1, answer.2.2) ∧
          texts.eraseDups.idxOf? text = some answer.1.index ∧
          (answer.2.1 = true ↔ text ∉ before) ∧
          (∀ more, more <+: later → (answer.2.2.internAll more).get answer.1 = some text) ∧
          ∀ before' text' later', texts = before' ++ text' :: later' →
            (((empty.internAll before').internFull text').1 = answer.1 ↔ text' = text)) ∧
      (∀ text s, (empty.internAll texts).Agrees text s) ∧
      let numbers := (empty.internAll texts).statistics
      numbers.misses = numbers.count ∧ numbers.count = (empty.internAll texts).size ∧
        numbers.total = texts.length := by
  refine ⟨by rw [entries, texts_internAll_empty], ?_, (distinct_empty.internAll texts).agrees, ?_⟩
  · rintro before text later rfl answer
    refine ⟨rfl, idxOf?_request before later text, ?_, ?_, ?_⟩
    · rw [isNew_internFull, texts_internAll_empty, List.mem_eraseDups]
    · intro more _
      rw [internAll_request]
      exact get_request before more text
    · intro before' text' later' hother
      exact request_eq_iff hother.symm
  · obtain ⟨hmisses, htotal⟩ := counts_internAll_empty texts
    exact ⟨hmisses, rfl, htotal⟩

/-- The third request asks for a text once more, and the fourth for a new one, which is empty. -/
theorem interning_law_repeated :
    let texts := ["b", "a", "b", ""]
    let t := empty.internAll texts
    let answer := (empty.internAll ["b", "a"]).internFull "b"
    t.entries = [(⟨0⟩, "b"), (⟨1⟩, "a"), (⟨2⟩, "")] ∧
      texts = ["b", "a"] ++ "b" :: [""] ∧ [""] <+: [""] ∧
      answer = (⟨0⟩, false, ⟨#["b", "a"], 1, 2⟩) ∧
      (answer.2.2.internAll [""]).get answer.1 = some "b" ∧
      texts = ["b"] ++ "a" :: ["b", ""] ∧
      (((empty.internAll ["b"]).internFull "a").1 = answer.1 ↔ "a" = "b") ∧
      t.Agrees "" ⟨2⟩ ∧ t.Agrees "c" ⟨3⟩ ∧ t.statistics = ⟨3, 1, 3⟩ := by
  intro texts t answer
  obtain ⟨hentries, hanswers, hagrees, -⟩ := interning_law texts
  obtain ⟨-, -, -, hget, hother⟩ := hanswers ["b", "a"] "b" [""] rfl
  exact ⟨hentries.trans (by decide +kernel), rfl, List.prefix_rfl, by decide +kernel,
    hget [""] List.prefix_rfl, rfl, hother ["b"] "a" ["b", ""] rfl, hagrees "" ⟨2⟩, hagrees "c" ⟨3⟩,
    by decide +kernel⟩

end FrontEnd.Symbol.Table
