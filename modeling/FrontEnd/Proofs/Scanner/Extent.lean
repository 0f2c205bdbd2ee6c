/-
# FrontEnd.Proofs.Scanner.Extent — joining the spans of tokens.

Of two spans that start together, `Span.join` keeps line and column of the left one.  So among spans
at large the outcome can depend on their order; it does not where the start determines line and
column, as it does for the tokens of one text (`located_of_mem_run`).

`Span.Joining` is any way to join spans two by two.  What comes out is a hull of the spans that went
in (`Joining.isHull_result`), and where these agree on their places they have only one hull
(`Span.IsHull.unique`).
-/
import FrontEnd.Proofs.Scanner.Position
import FrontEnd.Proofs.Scanner.Stream

namespace FrontEnd

namespace Span

/-! ## Hulls -/

/-- The span starts as the first of the parts does, in its line and column, and stops with the last
of them to stop. -/
structure IsHull (s : Span) (parts : List Span) : Prop where
  first : ∃ a ∈ parts, a.place = s.place
  start_le : ∀ a ∈ parts, s.start ≤ a.start
  last : ∃ a ∈ parts, a.stop = s.stop
  le_stop : ∀ a ∈ parts, a.stop ≤ s.stop

/-- Spans that start together start in the same line and column. -/
def Agree (spans : List Span) : Prop :=
  ∀ a ∈ spans, ∀ b ∈ spans, a.start = b.start → a.place = b.place

theorem eq_of_place_of_stop {a b : Span} (hplace : a.place = b.place) (hstop : a.stop = b.stop) :
    a = b := by
  obtain ⟨start, stop, line, column⟩ := a
  obtain ⟨rfl, rfl, rfl⟩ := Place.mk.inj hplace
  obtain rfl : stop = b.stop := hstop
  rfl

/-- A join starts as that one of the two does which starts no later than the other. -/
theorem place_join_cases (a b : Span) :
    ((a.join b).place = a.place ∧ a.start ≤ b.start) ∨
      ((a.join b).place = b.place ∧ b.start ≤ a.start) := by
  by_cases h : a.start ≤ b.start
  · refine Or.inl ⟨?_, h⟩
    rw [join, if_pos h, place, Nat.min_eq_left h]
    rfl
  · have hle : b.start ≤ a.start := Nat.le_of_not_le h
    refine Or.inr ⟨?_, hle⟩
    rw [join, if_neg h, place, Nat.min_eq_right hle]
    rfl

section

variable {s s' : Span} {parts parts' : List Span}

theorem isHull_singleton (s : Span) : s.IsHull [s] := by
  constructor <;> simp

theorem IsHull.join (h : s.IsHull parts) (h' : s'.IsHull parts') :
    (s.join s').IsHull (parts ++ parts') := by
  constructor
  case first =>
    obtain ⟨a, ha, hplace⟩ := h.first
    obtain ⟨b, hb, hplace'⟩ := h'.first
    rcases s.place_join_cases s' with ⟨hjoin, -⟩ | ⟨hjoin, -⟩
    · exact ⟨a, List.mem_append_left _ ha, hplace.trans hjoin.symm⟩
    · exact ⟨b, List.mem_append_right _ hb, hplace'.trans hjoin.symm⟩
  case start_le =>
    refine List.forall_mem_append.mpr ⟨?_, ?_⟩
    · intro a ha
      exact (Nat.min_le_left _ _).trans (h.start_le a ha)
    · intro b hb
      exact (Nat.min_le_right _ _).trans (h'.start_le b hb)
  case last =>
    obtain ⟨a, ha, hstop⟩ := h.last
    obtain ⟨b, hb, hstop'⟩ := h'.last
    have hmax : (s.join s').stop = max s.stop s'.stop := rfl
    rcases Nat.le_total s'.stop s.stop with hle | hle
    · exact ⟨a, List.mem_append_left _ ha, by rw [hmax, Nat.max_eq_left hle, hstop]⟩
    · exact ⟨b, List.mem_append_right _ hb, by rw [hmax, Nat.max_eq_right hle, hstop']⟩
  case le_stop =>
    refine List.forall_mem_append.mpr ⟨?_, ?_⟩
    · intro a ha
      exact (h.le_stop a ha).trans (Nat.le_max_left _ _)
    · intro b hb
      exact (h'.le_stop b hb).trans (Nat.le_max_right _ _)

/-- Parts that agree on their places have one hull, in whatever order they come and however often. -/
theorem IsHull.unique (h : s.IsHull parts) (h' : s'.IsHull parts') (hagree : Agree parts)
    (hsame : ∀ a, a ∈ parts' ↔ a ∈ parts) : s' = s := by
  obtain ⟨a, ha, hplace⟩ := h.first
  obtain ⟨b, hb, hplace'⟩ := h'.first
  obtain ⟨d, hd, hstop⟩ := h.last
  obtain ⟨e, he, hstop'⟩ := h'.last
  have hstart : a.start = s.start := congrArg Place.offset hplace
  have hstart' : b.start = s'.start := congrArg Place.offset hplace'
  have hb' := (hsame b).mp hb
  have he' := (hsame e).mp he
  apply eq_of_place_of_stop
  · rw [← hplace, ← hplace']
    apply hagree b hb' a ha
    have hle := h.start_le b hb'
    have hle' := h'.start_le a ((hsame a).mpr ha)
    omega
  · have hle := h.le_stop e he'
    have hle' := h'.le_stop d ((hsame d).mpr hd)
    omega

/-- Spans that start where their line and column say agree on their places. -/
theorem agree_of_locatedIn {source : String} (h : ∀ a ∈ parts, a.LocatedIn source) :
    Agree parts := by
  intro a ha b hb hstart
  have hplace : Place.at? source.toList a.start = some a.place := h a ha
  rw [hstart, h b hb] at hplace
  exact (Option.some.inj hplace).symm

end

/-! ## Joining any number of spans -/

/-- A way to join spans two by two, in some order and grouping.  A span may come in several times. -/
inductive Joining where
  | single (s : Span)
  | both (a b : Joining)

namespace Joining

/-- The spans that are joined, from left to right. -/
def parts : Joining → List Span
  | single s => [s]
  | both a b => a.parts ++ b.parts

/-- The span that comes out. -/
def result : Joining → Span
  | single s => s
  | both a b => a.result.join b.result

theorem isHull_result (j : Joining) : j.result.IsHull j.parts := by
  induction j with
  | single s => exact isHull_singleton s
  | both a b iha ihb => exact iha.join ihb

end Joining

end Span

namespace Scanner

/-! ## The tokens of a run -/

/-- The tokens of a run are the first ones that the scanner hands out. -/
theorem exists_run_eq_map_tokenAt (s : Scanner) :
    ∃ n, s.run.1 = (List.range (n + 1)).map s.tokenAt := by
  fun_induction run s with
  | case1 s t s' hnext hend =>
    refine ⟨0, ?_⟩
    show [t] = [s.next.1]
    rw [hnext]
  | case2 s t s' hnext hend ts s'' hrun ih =>
    obtain ⟨n, hn⟩ := ih
    refine ⟨n + 1, ?_⟩
    have hfirst : s.tokenAt 0 = t := congrArg Prod.fst hnext
    have hrest : s.after 1 = s' := congrArg Prod.snd hnext
    have hlater : s'.tokenAt = fun i => s.tokenAt (i + 1) := by
      funext i
      rw [← hrest, tokenAt_after, Nat.add_comm]
    rw [hrun, hlater] at hn
    rw [List.range_succ_eq_map, List.map_cons, List.map_map, hfirst]
    exact congrArg (t :: ·) hn

/-- Tokens of a run start where their line and column say. -/
theorem located_of_mem_run {s : Scanner} (h : s.cursor.Coherent) :
    ∀ t ∈ s.run.1, t.span.LocatedIn s.cursor.source := by
  intro t ht
  rw [← tokens_history] at ht
  obtain ⟨f, hf, htoken⟩ := List.mem_filterMap.mp ht
  obtain ⟨a, ha, hlocated⟩ := located_of_mem_history h f hf
  cases f with
  | report r => cases htoken
  | token u =>
    obtain rfl := Option.some.inj htoken
    obtain rfl := Option.some.inj ha
    exact hlocated

/-- From the first of some tokens to the last of them is the hull of them all. -/
theorem isHull_tokens (s : Scanner) (n : Nat) :
    let first := (s.tokenAt 0).span
    Span.IsHull ⟨first.start, (s.tokenAt n).span.stop, first.line, first.column⟩
      ((List.range (n + 1)).map fun i => (s.tokenAt i).span) := by
  intro first
  constructor
  case first => exact ⟨first, List.mem_map.mpr ⟨0, by simp, rfl⟩, rfl⟩
  case start_le =>
    rw [List.forall_mem_map]
    intro i _
    exact (s.span_tokenAt_le (Nat.zero_le i)).1
  case last => exact ⟨_, List.mem_map.mpr ⟨n, by simp, rfl⟩, rfl⟩
  case le_stop =>
    rw [List.forall_mem_map]
    intro i hi
    exact (s.span_tokenAt_le (Nat.le_of_lt_succ (List.mem_range.mp hi))).2

/-- However spans of tokens of one text are joined, the end token among them or not, the outcome
starts as the first of them does, in its line and column, and stops with the last of them to stop.
All of them that start there start in that line and column, and any other way to join the same spans
comes to the same.  Joining the spans of all tokens in front of the end token gives the span from the
first of these tokens to the last. -/
theorem joining_exact (c : Compilation) (source : String) (j : Span.Joining)
    (hparts : ∀ a ∈ j.parts, a ∈ (ofText c source).run.1.map Token.span) :
    let tokens := (ofText c source).run.1.dropLast
    j.result.IsHull j.parts ∧
      (∀ a ∈ j.parts, a.start = j.result.start → a.place = j.result.place) ∧
      (∀ k : Span.Joining, (∀ a, a ∈ k.parts ↔ a ∈ j.parts) → k.result = j.result) ∧
      ((∀ a, a ∈ j.parts ↔ a ∈ tokens.map Token.span) →
        ∃ first last, tokens.head? = some first ∧ tokens.getLast? = some last ∧
          j.result =
            ⟨first.span.start, last.span.stop, first.span.line, first.span.column⟩) := by
  intro tokens
  have hhull := j.isHull_result
  have hlocated : ∀ a ∈ j.parts, a.LocatedIn source := by
    intro a ha
    obtain ⟨t, ht, rfl⟩ := List.mem_map.mp (hparts a ha)
    exact located_of_mem_run (Cursor.coherent_ofString source) t ht
  have hagree := Span.agree_of_locatedIn hlocated
  refine ⟨hhull, ?_, ?_, ?_⟩
  · intro a ha hstart
    obtain ⟨b, hb, hplace⟩ := hhull.first
    rw [← hplace]
    exact hagree a ha b hb (hstart.trans (congrArg Place.offset hplace).symm)
  · intro k hsame
    exact hhull.unique k.isHull_result hagree hsame
  · intro hall
    obtain ⟨n, hrun⟩ := (ofText c source).exists_run_eq_map_tokenAt
    have htokens : tokens = (List.range n).map (ofText c source).tokenAt := by
      show (ofText c source).run.1.dropLast = _
      rw [hrun, List.range_succ, List.map_append, List.map_singleton, List.dropLast_concat]
    obtain ⟨a, ha, -⟩ := hhull.first
    cases n with
    | zero =>
      -- there is something to join, so there is a token
      have hnone := (hall a).mp ha
      rw [htokens] at hnone
      cases hnone
    | succ n =>
      refine ⟨(ofText c source).tokenAt 0, (ofText c source).tokenAt n, ?_, ?_, ?_⟩
      · rw [htokens, List.range_succ_eq_map]
        rfl
      · rw [htokens, List.range_succ, List.map_append, List.map_singleton,
          List.getLast?_concat]
      · have htarget := (ofText c source).isHull_tokens n
        rw [htokens, List.map_map] at hall
        exact (hhull.unique htarget hagree fun a => (hall a).symm).symm

/-- Three tokens on two lines, joined from the last to the first with the middle one twice, and in
another grouping with the last one twice. -/
theorem joining_exact_backwards :
    let s := ofText (.withoutLog .standard (.ofDisk .fresh fun _ => 0)) "ab /**/ \"é\"\n c "
    let a : Span := ⟨0, 2, 0, 0⟩
    let b : Span := ⟨8, 12, 0, 8⟩
    let d : Span := ⟨14, 15, 1, 1⟩
    let j : Span.Joining := .both (.both (.single d) (.single b)) (.both (.single b) (.single a))
    let k : Span.Joining := .both (.both (.single b) (.both (.single d) (.single a))) (.single d)
    (∀ x ∈ j.parts, x ∈ s.run.1.map Token.span) ∧ (∀ x, x ∈ k.parts ↔ x ∈ j.parts) ∧
      (∀ x, x ∈ j.parts ↔ x ∈ s.run.1.dropLast.map Token.span) ∧
      j.result.IsHull j.parts ∧ k.result = j.result ∧
      ∃ first last, s.run.1.dropLast.head? = some first ∧ s.run.1.dropLast.getLast? = some last ∧
        j.result = ⟨first.span.start, last.span.stop, first.span.line, first.span.column⟩ := by
  intro s a b d j k
  have hspans : s.run.1.dropLast.map Token.span = [a, b, d] := by decide +kernel
  have hparts : ∀ x ∈ j.parts, x ∈ s.run.1.map Token.span := by decide +kernel
  have hsame : ∀ x, x ∈ k.parts ↔ x ∈ j.parts := by
    intro x
    simp only [k, j, Span.Joining.parts, List.mem_append, List.mem_singleton]
    tauto
  have hall : ∀ x, x ∈ j.parts ↔ x ∈ s.run.1.dropLast.map Token.span := by
    intro x
    rw [hspans]
    simp only [j, Span.Joining.parts, List.mem_append, List.mem_cons, List.not_mem_nil]
    tauto
  obtain ⟨hhull, -, hother, htokens⟩ := joining_exact _ _ j hparts
  exact ⟨hparts, hsame, hall, hhull, hother k hsame, htokens hall⟩

end Scanner

end FrontEnd
