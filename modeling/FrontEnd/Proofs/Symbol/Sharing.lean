/-
# FrontEnd.Proofs.Symbol.Sharing — interning in two steps, with other holders in between.

A holder of a shared table interns a text by a probe and, if the text is missing, a store later on.
Between the two any number of other holders may take their steps, so the text may be there when the
store comes to be made.  What one step does is told by `Traffic.Step`; which holder takes the next
one, and what it asks for, is left open, and so are the number of holders and of their requests.

`Orderly` is what every step keeps (`Orderly.step`), and so every run.  It ties the table to the
answers that were given: the texts stored, in the order of the stores, stand behind those there were,
and every answer is the handle under which its text is found.
-/
import FrontEnd.Proofs.Symbol.Handles
import FrontEnd.Symbol.Shared

namespace FrontEnd.Symbol

/-! ## Holders at work -/

/-- How a request came to its answer. -/
inductive Outcome where
  /-- The probe found the text. -/
  | found
  /-- The probe missed the text, but the store found it there. -/
  | overtaken
  /-- The probe missed the text, and the store put it in. -/
  | stored
  deriving DecidableEq, Repr

/-- A request that has been answered. -/
structure Answer where
  text : String
  symbol : Symbol
  outcome : Outcome
  deriving DecidableEq, Repr

/-- A shared table at work: the texts that holders have probed for in vain and not yet stored, and
the answers so far, the oldest first. -/
structure Traffic (Holder : Type) where
  shared : SharedTable
  waiting : Holder → Option String
  answers : List Answer

namespace Traffic

variable {Holder : Type}

/-- No holder has asked for anything yet. -/
def start (t : Table) : Traffic Holder := ⟨⟨t⟩, fun _ => none, []⟩

/-- The texts that were stored, in the order of the stores. -/
def storedTexts (q : Traffic Holder) : List String :=
  (q.answers.filter (·.outcome == .stored)).map Answer.text

/-- The number of requests that another holder has overtaken. -/
def overtakings (q : Traffic Holder) : Nat := q.answers.countP (·.outcome == .overtaken)

/-- Another answer is given. -/
def answer (q : Traffic Holder) (text : String) (symbol : Symbol) (outcome : Outcome) :
    Traffic Holder :=
  { q with answers := q.answers ++ [⟨text, symbol, outcome⟩] }

theorem storedTexts_answer (q : Traffic Holder) (text : String) (symbol : Symbol)
    (outcome : Outcome) :
    (q.answer text symbol outcome).storedTexts =
      q.storedTexts ++ if outcome = .stored then [text] else [] := by
  simp only [storedTexts, answer, List.filter_append, List.map_append]
  cases outcome <;> rfl

theorem overtakings_answer (q : Traffic Holder) (text : String) (symbol : Symbol)
    (outcome : Outcome) :
    (q.answer text symbol outcome).overtakings =
      q.overtakings + if outcome = .overtaken then 1 else 0 := by
  simp only [overtakings, answer, List.countP_append]
  cases outcome <;> rfl

/-- A request is made and answered with nothing in between. -/
def serve (q : Traffic Holder) (text : String) (outcome : Outcome) : Traffic Holder :=
  let (symbol, shared) := q.shared.intern text
  { q with shared := shared }.answer text symbol outcome

theorem answers_serve (q : Traffic Holder) (text : String) (outcome : Outcome) :
    (q.serve text outcome).answers =
      q.answers ++ [⟨text, (q.shared.intern text).1, outcome⟩] := rfl

/-! ## Table and answers -/

/-- The table and the answers belong together, for a table that has started as `t`. -/
structure Orderly (t : Table) (q : Traffic Holder) : Prop where
  distinct : q.shared.table.Distinct
  texts : q.shared.table.texts.toList = t.texts.toList ++ q.storedTexts
  misses : q.shared.table.misses = t.misses + q.storedTexts.length
  hits : q.shared.table.hits = t.hits + q.overtakings
  answers : ∀ a ∈ q.answers, q.shared.table.lookup a.text = some a.symbol

theorem orderly_start {t : Table} (h : t.Distinct) : Orderly t (start t : Traffic Holder) where
  distinct := h
  texts := (List.append_nil _).symm
  misses := rfl
  hits := rfl
  answers := List.forall_mem_nil _

section Orderly

variable {t : Table} {q : Traffic Holder}

/-- Two answers have the same handle just when they are for the same text. -/
theorem Orderly.symbol_eq_iff (ho : q.Orderly t) {a b : Answer} (ha : a ∈ q.answers)
    (hb : b ∈ q.answers) : a.symbol = b.symbol ↔ a.text = b.text := by
  have hlookup := ho.answers a ha
  have hlookup' := ho.answers b hb
  constructor
  · intro h
    rw [← Table.resolve_of_lookup hlookup, ← Table.resolve_of_lookup hlookup', h]
  · intro h
    rw [h, hlookup'] at hlookup
    exact (Option.some.inj hlookup).symm

/-- Answers stay true, and a new one is true if the table has its text under its handle. -/
theorem Orderly.answers_concat (ho : q.Orderly t) {table : Table}
    (hext : q.shared.table.Extends table) {a : Answer} (ha : table.lookup a.text = some a.symbol) :
    ∀ b ∈ q.answers ++ [a], table.lookup b.text = some b.symbol := by
  rw [List.forall_mem_append, List.forall_mem_singleton]
  refine ⟨?_, ha⟩
  intro b hb
  exact Table.lookup_of_extends hext (ho.answers b hb)

end Orderly

/-! ## Steps -/

variable [DecidableEq Holder]

/-- The holder `h` makes the store that it has been waiting to make. -/
def store (q : Traffic Holder) (h : Holder) (text : String) (outcome : Outcome) : Traffic Holder :=
  let (symbol, shared) := q.shared.store text
  { q with shared := shared, waiting := Function.update q.waiting h none }.answer text symbol outcome

/-- One step of the holder `h`: a probe if it has nothing left to store, and a store otherwise. -/
inductive Step (h : Holder) (q : Traffic Holder) : Traffic Holder → Prop
  | found {text : String} {symbol : Symbol} :
      q.waiting h = none → q.shared.probe text = some symbol →
      Step h q (q.answer text symbol .found)
  | missed {text : String} :
      q.waiting h = none → q.shared.probe text = none →
      Step h q { q with waiting := Function.update q.waiting h (some text) }
  | overtaken {text : String} {other : Symbol} :
      q.waiting h = some text → q.shared.probe text = some other →
      Step h q (q.store h text .overtaken)
  | stored {text : String} :
      q.waiting h = some text → q.shared.probe text = none →
      Step h q (q.store h text .stored)

/-- Any number of steps, each by any of the holders. -/
inductive Run (q : Traffic Holder) : Traffic Holder → Prop
  | refl : Run q q
  | step {q' q'' : Traffic Holder} (h : Holder) : Run q q' → Step h q' q'' → Run q q''

theorem Run.trans {q q' q'' : Traffic Holder} (h : q.Run q') (h' : q'.Run q'') : q.Run q'' := by
  induction h' with
  | refl => exact h
  | step holder _ hstep ih => exact .step holder ih hstep

section Step

variable {t : Table} {h : Holder} {q q' : Traffic Holder}

/-- No step takes a text out of the table. -/
theorem Step.extends (hstep : Step h q q') : q.shared.table.Extends q'.shared.table := by
  cases hstep with
  | found | missed => exact .refl _
  | overtaken | stored => exact Table.extends_intern _ _

/-- No step takes an answer back. -/
theorem Step.answers_prefix (hstep : Step h q q') : q.answers <+: q'.answers := by
  cases hstep with
  | missed => exact List.prefix_rfl
  | found | overtaken | stored => exact List.prefix_append _ _

theorem Orderly.step (ho : q.Orderly t) (hstep : Step h q q') : q'.Orderly t := by
  have hext := hstep.extends
  have hlookup (text : String) := q.shared.table.lookup_intern text
  cases hstep with
  | @found text symbol _ hprobe =>
    refine ⟨ho.distinct, ?_, ?_, ?_, ho.answers_concat hext hprobe⟩
    · rw [storedTexts_answer, if_neg nofun, List.append_nil]
      exact ho.texts
    · rw [storedTexts_answer, if_neg nofun, List.append_nil]
      exact ho.misses
    · rw [overtakings_answer, if_neg nofun]
      exact ho.hits
  | missed => exact ⟨ho.distinct, ho.texts, ho.misses, ho.hits, ho.answers⟩
  | @overtaken text other _ hprobe =>
    -- The store finds what another holder has put in, and only counts the request.
    have hintern := Table.intern_of_lookup hprobe
    refine ⟨ho.distinct.intern text, ?_, ?_, ?_, ho.answers_concat hext (hlookup text)⟩
    · rw [store, storedTexts_answer, if_neg nofun, List.append_nil]
      show (q.shared.table.intern text).2.texts.toList = _
      rw [hintern]
      exact ho.texts
    · rw [store, storedTexts_answer, if_neg nofun, List.append_nil]
      show (q.shared.table.intern text).2.misses = _
      rw [hintern]
      exact ho.misses
    · rw [store, overtakings_answer, if_pos rfl]
      show (q.shared.table.intern text).2.hits = _
      rw [hintern]
      exact congrArg (· + 1) ho.hits
  | @stored text _ hprobe =>
    have hintern := Table.intern_of_new hprobe
    refine ⟨ho.distinct.intern text, ?_, ?_, ?_, ho.answers_concat hext (hlookup text)⟩
    · rw [store, storedTexts_answer, if_pos rfl]
      show (q.shared.table.intern text).2.texts.toList = _
      rw [hintern, Array.toList_push, ho.texts, List.append_assoc]
      rfl
    · rw [store, storedTexts_answer, if_pos rfl, List.length_append]
      show (q.shared.table.intern text).2.misses = _
      rw [hintern]
      exact congrArg (· + 1) ho.misses
    · rw [store, overtakings_answer, if_neg nofun]
      show (q.shared.table.intern text).2.hits = _
      rw [hintern]
      exact ho.hits

end Step

/-! ## Runs -/

section Run

variable {t : Table} {q q' : Traffic Holder}

theorem Orderly.run (ho : q.Orderly t) (h : q.Run q') : q'.Orderly t := by
  induction h with
  | refl => exact ho
  | step _ _ hstep ih => exact ih.step hstep

theorem Run.extends (h : q.Run q') : q.shared.table.Extends q'.shared.table := by
  induction h with
  | refl => exact .refl _
  | step _ _ hstep ih => exact ih.trans hstep.extends

theorem Run.answers_prefix (h : q.Run q') : q.answers <+: q'.answers := by
  induction h with
  | refl => exact List.prefix_rfl
  | step _ _ hstep ih => exact ih.trans hstep.answers_prefix

end Run

end Traffic

/-! ## Requests one after the other -/

/-- The handles of a list of texts, asked for one after the other, and what is left behind. -/
def requests {σ : Type} (ask : σ → String → Symbol × σ) (s : σ) : List String → List Symbol × σ
  | [] => ([], s)
  | text :: texts =>
    let (symbol, s) := ask s text
    let (symbols, s) := requests ask s texts
    (symbol :: symbols, s)

/-- Asked for one text after the other, a shared table gives the handles that its table would give,
and comes to hold the same texts; but it counts no request for a text that it holds. -/
theorem requests_intern {s : SharedTable} {t : Table} (htexts : s.table.texts = t.texts)
    (hmisses : s.table.misses = t.misses) (texts : List String) :
    let shared := requests SharedTable.intern s texts
    let plain := requests Table.intern t texts
    shared.1 = plain.1 ∧ shared.2.table.texts = plain.2.texts ∧
      shared.2.table.misses = plain.2.misses ∧ shared.2.table.hits = s.table.hits := by
  induction texts generalizing s t with
  | nil => exact ⟨rfl, htexts, hmisses, rfl⟩
  | cons text texts ih =>
    have hlookup : s.probe text = t.lookup text := by
      rw [SharedTable.probe, Table.lookup, Table.lookup, htexts]
    cases hfound : t.lookup text with
    | some symbol =>
      have hshared : s.intern text = (symbol, s) := by rw [SharedTable.intern, hlookup, hfound]
      have hplain := Table.intern_of_lookup hfound
      obtain ⟨hsymbols, hrest⟩ := ih (s := s) (t := { t with hits := t.hits + 1 }) htexts hmisses
      simp only [requests, hshared, hplain]
      exact ⟨congrArg (symbol :: ·) hsymbols, hrest⟩
    | none =>
      have hshared : s.intern text = s.store text := by rw [SharedTable.intern, hlookup, hfound]
      have hstore : s.store text = (⟨t.texts.size⟩,
          ⟨{ s.table with texts := t.texts.push text, misses := t.misses + 1 }⟩) := by
        have hnew := Table.intern_of_new (hlookup.trans hfound)
        rw [htexts, hmisses] at hnew
        exact congrArg (fun p => (p.1, SharedTable.mk p.2)) hnew
      have hplain := Table.intern_of_new hfound
      obtain ⟨hsymbols, hrest⟩ := ih
        (s := ⟨{ s.table with texts := t.texts.push text, misses := t.misses + 1 }⟩)
        (t := { t with texts := t.texts.push text, misses := t.misses + 1 }) rfl rfl
      simp only [requests, hshared, hstore, hplain]
      exact ⟨congrArg (_ :: ·) hsymbols, hrest⟩

namespace Traffic

variable {Holder : Type} [DecidableEq Holder]

/-- A holder that has nothing left to store can have a request served in steps of its own. -/
theorem run_serve {q : Traffic Holder} {h : Holder} (hidle : q.waiting h = none) (text : String) :
    ∃ outcome, q.Run (q.serve text outcome) := by
  unfold serve
  cases hprobe : q.shared.probe text with
  | some symbol =>
    have hintern : q.shared.intern text = (symbol, q.shared) := by rw [SharedTable.intern, hprobe]
    rw [hintern]
    exact ⟨.found, .step h .refl (.found hidle hprobe)⟩
  | none =>
    have hintern : q.shared.intern text = q.shared.store text := by rw [SharedTable.intern, hprobe]
    let missed : Traffic Holder := { q with waiting := Function.update q.waiting h (some text) }
    have hmissed : q.Run missed := .step h .refl (.missed hidle hprobe)
    have hwaiting : missed.waiting h = some text := Function.update_self ..
    have hback : Function.update missed.waiting h none = q.waiting := by
      rw [Function.update_idem, ← hidle, Function.update_eq_self]
    have hstored := Run.step h hmissed (.stored hwaiting hprobe)
    rw [store, hback] at hstored
    rw [hintern]
    exact ⟨.stored, hstored⟩

/-- So one holder that makes its requests while no other takes a step is a run as well. -/
theorem run_requests {q : Traffic Holder} {h : Holder} (hidle : q.waiting h = none)
    (texts : List String) :
    ∃ q', q.Run q' ∧ q'.shared = (requests SharedTable.intern q.shared texts).2 ∧
      q'.answers.map Answer.text = q.answers.map Answer.text ++ texts ∧
      q'.answers.map Answer.symbol =
        q.answers.map Answer.symbol ++ (requests SharedTable.intern q.shared texts).1 := by
  induction texts generalizing q with
  | nil => exact ⟨q, .refl, rfl, (List.append_nil _).symm, (List.append_nil _).symm⟩
  | cons text texts ih =>
    obtain ⟨outcome, hfirst⟩ := run_serve hidle text
    obtain ⟨q', hrest, hshared, htexts, hsymbols⟩ := ih (q := q.serve text outcome) hidle
    refine ⟨q', hfirst.trans hrest, hshared, ?_, ?_⟩
    · rw [htexts, answers_serve, List.map_append, List.append_assoc]
      rfl
    · rw [hsymbols, answers_serve, List.map_append, List.append_assoc]
      rfl

/-! ## The law of sharing -/

/-- However the steps of any holders follow one another, the table holds no text twice, and has the
texts it started with at their places and behind them those that were stored, in the order of the
stores.  A miss is counted for each of these, and a hit for each request that was overtaken.  The
handle given in answer to a request has its text from then on, and requests have the same answer just
when they are for the same text.  When requests are made one after the other, the answers and the
texts held are those of the table by itself, which would have counted the other requests as hits. -/
theorem sharing_law (initial : List String) {q : Traffic Holder}
    (h : (start (Table.empty.internAll initial)).Run q) :
    let t := Table.empty.internAll initial
    let table := q.shared.table
    table.Distinct ∧ table.texts.toList = t.texts.toList ++ q.storedTexts ∧
      table.misses = t.misses + q.storedTexts.length ∧ table.hits = t.hits + q.overtakings ∧
      (∀ q', q.Run q' → q.answers <+: q'.answers ∧
        ∀ a ∈ q.answers, q'.shared.table.get a.symbol = some a.text) ∧
      (∀ a ∈ q.answers, ∀ b ∈ q.answers, a.symbol = b.symbol ↔ a.text = b.text) ∧
      ∀ (_ : Holder) (texts : List String),
        let alone := requests SharedTable.intern ⟨t⟩ texts
        let plain := requests Table.intern t texts
        (∃ q', (start t : Traffic Holder).Run q' ∧ q'.shared = alone.2 ∧
          q'.answers.map Answer.text = texts ∧ q'.answers.map Answer.symbol = alone.1) ∧
        alone.1 = plain.1 ∧ alone.2.table.texts = plain.2.texts ∧
          alone.2.table.misses = plain.2.misses ∧ alone.2.table.hits = t.hits := by
  intro t table
  have hdistinct : t.Distinct := Table.distinct_empty.internAll initial
  have ho : q.Orderly t := (orderly_start hdistinct).run h
  refine ⟨ho.distinct, ho.texts, ho.misses, ho.hits, ?_, ?_, ?_⟩
  · intro q' hlater
    refine ⟨hlater.answers_prefix, ?_⟩
    intro a ha
    have hget := (Table.lookup_eq_some_iff_get ho.distinct).mp (ho.answers a ha)
    exact Table.get_of_extends hlater.extends hget
  · intro a ha b hb
    exact ho.symbol_eq_iff ha hb
  · intro holder texts alone plain
    exact ⟨run_requests (h := holder) rfl texts, requests_intern rfl rfl texts⟩

/-- Both holders probe for the same text before either stores it. -/
theorem sharing_law_overtaken :
    let t := Table.empty.internAll ["z"]
    ∃ q : Traffic Bool, (start t).Run q ∧
      q.answers = [⟨"a", ⟨1⟩, .stored⟩, ⟨"z", ⟨0⟩, .found⟩, ⟨"a", ⟨1⟩, .overtaken⟩] ∧
      q.shared.table.texts.toList = ["z"] ++ ["a"] ∧ q.shared.table.hits = 0 + 1 ∧
      q.shared.table.get ⟨1⟩ = some "a" := by
  intro t
  have hrun := Run.refl (q := start t)
    |>.step false (@Step.missed _ _ _ _ "a" rfl (by decide +kernel))
    |>.step true (@Step.missed _ _ _ _ "a" rfl (by decide +kernel))
    |>.step false (@Step.stored _ _ _ _ "a" rfl (by decide +kernel))
    |>.step false (@Step.found _ _ _ _ "z" ⟨0⟩ rfl (by decide +kernel))
    |>.step true (@Step.overtaken _ _ _ _ "a" ⟨1⟩ rfl (by decide +kernel))
  obtain ⟨-, htexts, -, hhits, hlater, -⟩ := sharing_law ["z"] hrun
  refine ⟨_, hrun, by decide +kernel, htexts.trans (by decide +kernel),
    hhits.trans (by decide +kernel), ?_⟩
  exact (hlater _ .refl).2 ⟨"a", ⟨1⟩, .stored⟩ (by decide +kernel)

end Traffic

end FrontEnd.Symbol
