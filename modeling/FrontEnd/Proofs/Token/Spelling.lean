/-
# FrontEnd.Proofs.Token.Spelling — the fixed spellings of keywords, operators and punctuation.

No two keywords and no two symbols are spelled alike, so looking a spelling up finds the kind that
has it (`ofKeyword?_eq_some_iff`, `ofSymbol?_eq_some_iff`).

A message names a kind by its spelling in quotes, or else by its name in small words
(`display_eq`), and no two kinds are named alike (`display_injective`).

The symbols' spellings are closed under taking non-empty prefixes (`isSome_ofSymbol?_of_prefix`).
So one character behind a spelling settles whether a longer one starts at the same place, although
the longest has three characters: `isLongest_append_iff` states the condition on that character.
-/
import FrontEnd.Token.Kind
import FrontEnd.Proofs.Text.CharClass
import Mathlib.Data.List.Infix
import Mathlib.Data.List.Nodup

namespace FrontEnd.Kind

/-! ## Keywords -/

theorem mem_keywords (word : Keyword) : word ∈ Keyword.all := by cases word <;> decide

theorem keyword_glyphs_injective {a b : Keyword} (h : a.glyphs = b.glyphs) : a = b := by
  have hall : ∀ a ∈ Keyword.all, ∀ b ∈ Keyword.all, a.glyphs = b.glyphs → a = b := by decide
  exact hall a (mem_keywords a) b (mem_keywords b) h

theorem ofKeyword?_eq_some_iff {cs : List Char} {word : Keyword} :
    ofKeyword? cs = some word ↔ word.glyphs = cs := by
  constructor
  · intro h
    simpa using List.find?_some h
  · rintro rfl
    cases hfind : ofKeyword? word.glyphs with
    | none =>
      have hnone := List.find?_eq_none.mp hfind word (mem_keywords word)
      simp at hnone
    | some other =>
      have hglyphs : other.glyphs = word.glyphs := by simpa using List.find?_some hfind
      rw [keyword_glyphs_injective hglyphs]

theorem ofKeyword?_eq_none_iff {cs : List Char} :
    ofKeyword? cs = none ↔ ∀ word : Keyword, word.glyphs ≠ cs := by
  constructor
  · intro h word heq
    rw [ofKeyword?_eq_some_iff.mpr heq] at h
    cases h
  · intro h
    rw [Option.eq_none_iff_forall_ne_some]
    intro word hword
    exact h word (ofKeyword?_eq_some_iff.mp hword)

/-- A keyword is written as a word. -/
theorem isWord_glyphs (word : Keyword) : CharClass.IsWord word.glyphs := by
  cases word <;> exact ⟨_, _, rfl, rfl, List.all_eq_true.mp rfl⟩

/-! ## Symbols -/

theorem operator_mem_symbols (sign : Operator) : .operator sign ∈ symbols := by
  cases sign <;> decide

theorem punctuation_mem_symbols (mark : Punctuation) : .punctuation mark ∈ symbols := by
  cases mark <;> decide

theorem exists_of_mem_symbols {k : Kind} (h : k ∈ symbols) :
    (∃ sign, k = .operator sign) ∨ ∃ mark, k = .punctuation mark := by
  rcases List.mem_append.mp h with hsign | hmark
  · obtain ⟨sign, -, rfl⟩ := List.mem_map.mp hsign
    exact Or.inl ⟨sign, rfl⟩
  · obtain ⟨mark, -, rfl⟩ := List.mem_map.mp hmark
    exact Or.inr ⟨mark, rfl⟩

theorem glyphs_injOn_symbols :
    ∀ k ∈ symbols, ∀ other ∈ symbols, k.glyphs = other.glyphs → k = other := by decide

theorem ofSymbol?_eq_some_iff {cs : List Char} {k : Kind} :
    ofSymbol? cs = some k ↔ k ∈ symbols ∧ k.glyphs = cs := by
  constructor
  · intro h
    exact ⟨List.mem_of_find?_eq_some h, by simpa using List.find?_some h⟩
  · rintro ⟨hmem, rfl⟩
    cases hfind : ofSymbol? k.glyphs with
    | none =>
      have hnone := List.find?_eq_none.mp hfind k hmem
      simp at hnone
    | some other =>
      have hglyphs : other.glyphs = k.glyphs := by simpa using List.find?_some hfind
      have hother := List.mem_of_find?_eq_some hfind
      rw [glyphs_injOn_symbols other hother k hmem hglyphs]

theorem ofSymbol?_eq_none_iff {cs : List Char} :
    ofSymbol? cs = none ↔ ∀ k ∈ symbols, k.glyphs ≠ cs := by
  simp [ofSymbol?]

/-- Every non-empty prefix of a spelling is itself a spelling. -/
theorem isSome_ofSymbol?_of_prefix {k : Kind} (hk : k ∈ symbols) {cs : List Char}
    (hcs : cs ≠ []) (hpre : cs <+: k.glyphs) : (ofSymbol? cs).isSome = true := by
  have hall : ∀ k ∈ symbols, ∀ cs ∈ k.glyphs.inits, cs ≠ [] → (ofSymbol? cs).isSome = true := by
    decide
  exact hall k hk cs ((List.mem_inits cs k.glyphs).mpr hpre) hcs

/-- `kind` is the longest operator or punctuation at the front of `cs`. -/
structure IsLongest (kind : Kind) (cs : List Char) : Prop where
  mem : kind ∈ symbols
  front : kind.glyphs <+: cs
  longest : ∀ other ∈ symbols, other.glyphs <+: cs → other.glyphs.length ≤ kind.glyphs.length

theorem IsLongest.unique {a b : Kind} {cs : List Char} (ha : a.IsLongest cs)
    (hb : b.IsLongest cs) : a = b := by
  have hlen : a.glyphs.length = b.glyphs.length :=
    Nat.le_antisymm (hb.longest a ha.mem ha.front) (ha.longest b hb.mem hb.front)
  have hpre := List.prefix_of_prefix_length_le ha.front hb.front hlen.le
  exact glyphs_injOn_symbols a ha.mem b hb.mem (hpre.eq_of_length hlen)

/-- One character behind a spelling tells whether a longer one starts there. -/
theorem isLongest_append_iff {kind : Kind} {rest : List Char} :
    kind.IsLongest (kind.glyphs ++ rest) ↔
      kind ∈ symbols ∧ ∀ c ∈ rest.head?, ofSymbol? (kind.glyphs ++ [c]) = none := by
  constructor
  · intro h
    refine ⟨h.mem, ?_⟩
    intro c hc
    obtain ⟨cs, rfl⟩ := List.head?_eq_some_iff.mp hc
    rw [ofSymbol?_eq_none_iff]
    intro other hother heq
    have hle := h.longest other hother ⟨cs, by rw [heq]; simp⟩
    rw [heq, List.length_append, List.length_singleton] at hle
    omega
  · rintro ⟨hmem, hnext⟩
    refine ⟨hmem, List.prefix_append _ _, ?_⟩
    intro other hother hpre
    by_contra hlt
    -- a longer spelling goes on with the next character, and up to there it is a spelling
    cases rest with
    | nil =>
      rw [List.append_nil] at hpre
      exact hlt hpre.length_le
    | cons c cs =>
      have hshort : kind.glyphs ++ [c] <+: other.glyphs := by
        have hnext' : kind.glyphs ++ [c] <+: kind.glyphs ++ c :: cs := ⟨cs, by simp⟩
        apply List.prefix_of_prefix_length_le hnext' hpre
        rw [List.length_append, List.length_singleton]
        omega
      have hsome := isSome_ofSymbol?_of_prefix hother (by simp) hshort
      rw [hnext c rfl] at hsome
      cases hsome

/-- No spelling holds a blank. -/
theorem isBlank_of_mem_glyphs {kind : Kind} (hkind : kind ∈ symbols) :
    ∀ c ∈ kind.glyphs, CharClass.isBlank c = false := by
  have hall : ∀ k ∈ symbols, k.glyphs.any CharClass.isBlank = false := by decide
  intro c hc
  simpa using List.any_eq_false.mp (hall kind hkind) c hc

theorem ofSymbol?_append_blank {cs : List Char} {c : Char} (hc : CharClass.isBlank c = true) :
    ofSymbol? (cs ++ [c]) = none := by
  rw [ofSymbol?_eq_none_iff]
  intro other hother heq
  have hnot := isBlank_of_mem_glyphs hother c (by rw [heq]; simp)
  rw [hc] at hnot
  cases hnot

/-! ## First characters of symbols -/

/-- The first character of a symbol starts nothing else, comments and numerals apart. -/
theorem head_of_mem_symbols : ∀ k ∈ symbols, ∀ c ∈ k.glyphs.head?,
    CharClass.isBlank c = false ∧ CharClass.isWordStart c = false ∧ c.isDigit = false ∧
      c ≠ '"' := by
  have hall : ∀ k ∈ symbols, k.glyphs.head?.all (fun c =>
      !CharClass.isBlank c && !CharClass.isWordStart c && !c.isDigit && c != '"') = true := by
    decide
  intro k hk c hc
  have hfirst := hall k hk
  rw [Option.mem_def.mp hc] at hfirst
  simpa [and_assoc] using hfirst

theorem slash_of_mem_symbols : ∀ k ∈ symbols, k.glyphs.head? = some '/' →
    k = .operator .slash ∨ k.glyphs = ['/', '='] := by decide

theorem period_of_mem_symbols : ∀ k ∈ symbols, k.glyphs.head? = some '.' →
    k = .punctuation .period := by decide

/-! ## Kinds in a message -/

theorem mem_all (k : Kind) : k ∈ all := by
  cases k with
  | absent | endOfText | identifier => decide
  | keyword word => cases word <;> decide
  | literal family => cases family <;> decide
  | operator sign => cases sign <;> decide
  | punctuation mark => cases mark <;> decide

/-- A kind is named by its fixed spelling in quotes.  A kind without one is named by its name, in
small letters and with spaces between the words. -/
theorem display_eq (k : Kind) : k.display =
    if k.glyphs = [] then .ofList (k.name.toList.map fun c => if c = '_' then ' ' else c.toLower)
    else "'" ++ .ofList k.glyphs ++ "'" := by
  cases k with
  | absent | endOfText | identifier => decide +kernel
  | keyword word => cases word <;> rfl
  | literal family => cases family <;> decide +kernel
  | operator sign => cases sign <;> rfl
  | punctuation mark => cases mark <;> rfl

/-- No two kinds are named alike. -/
theorem display_injective : Function.Injective display := by
  have hnodup : (all.map display).Nodup := by decide +kernel
  intro k other h
  exact List.inj_on_of_nodup_map hnodup (mem_all k) (mem_all other) h

end FrontEnd.Kind
