/-
# FrontEnd.Proofs.Lexeme.Symbol — the longest operator or punctuation at the front of a text.

`Lexeme.symbolUpTo?` tries three characters, then two, then one.  `symbolUpTo?_eq_some_iff` says
that this finds the longest spelling at the front of the text, and `symbolUpTo?_eq_none_iff` that
it fails only where the first character spells nothing.
-/
import FrontEnd.Lexeme
import FrontEnd.Proofs.Token.Spelling

namespace FrontEnd.Lexeme

theorem isLongest_of_symbolUpTo? {cs : List Char} {n : Nat} {kind : Kind}
    (h : symbolUpTo? cs n = some kind) :
    kind ∈ Kind.symbols ∧ kind.glyphs <+: cs ∧
      ∀ other ∈ Kind.symbols, other.glyphs.length ≤ n → other.glyphs <+: cs →
        other.glyphs.length ≤ kind.glyphs.length := by
  induction n with
  | zero => cases h
  | succ n ih =>
    rw [symbolUpTo?] at h
    split at h
    · rename_i found hfound
      cases h
      obtain ⟨hmem, hglyphs⟩ := Kind.ofSymbol?_eq_some_iff.mp hfound
      rw [hglyphs]
      refine ⟨hmem, List.take_prefix _ _, ?_⟩
      intro other _ hlen hpre
      rw [List.length_take]
      exact le_min hlen hpre.length_le
    · rename_i hnone
      obtain ⟨hmem, hfront, hlongest⟩ := ih h
      refine ⟨hmem, hfront, ?_⟩
      intro other hother hlen hpre
      rcases Nat.lt_or_eq_of_le hlen with hlt | heq
      · exact hlongest other hother (Nat.lt_succ_iff.mp hlt) hpre
      · have htake := List.prefix_iff_eq_take.mp hpre
        rw [heq] at htake
        exact absurd htake (Kind.ofSymbol?_eq_none_iff.mp hnone other hother)

theorem not_prefix_of_symbolUpTo? {cs : List Char} {n : Nat} (h : symbolUpTo? cs n = none) :
    ∀ other ∈ Kind.symbols, other.glyphs.length ≤ n → ¬ other.glyphs <+: cs := by
  induction n with
  | zero =>
    intro other hother hlen _
    exact Kind.glyphs_ne_nil_of_mem_symbols other hother (List.length_eq_zero_iff.mp (by omega))
  | succ n ih =>
    rw [symbolUpTo?] at h
    split at h
    · cases h
    · rename_i hnone
      intro other hother hlen hpre
      rcases Nat.lt_or_eq_of_le hlen with hlt | heq
      · exact ih h other hother (Nat.lt_succ_iff.mp hlt) hpre
      · have htake := List.prefix_iff_eq_take.mp hpre
        rw [heq] at htake
        exact Kind.ofSymbol?_eq_none_iff.mp hnone other hother htake

/-- Trying three characters, then two, then one finds the longest spelling. -/
theorem symbolUpTo?_eq_some_iff {cs : List Char} {kind : Kind} :
    symbolUpTo? cs Kind.longestSymbol = some kind ↔ kind.IsLongest cs := by
  have hlen := Kind.length_glyphs_le_longestSymbol
  constructor
  · intro h
    obtain ⟨hmem, hfront, hlongest⟩ := isLongest_of_symbolUpTo? h
    exact ⟨hmem, hfront, fun other hother => hlongest other hother (hlen other hother)⟩
  · intro h
    cases hfind : symbolUpTo? cs Kind.longestSymbol with
    | none => exact absurd h.front (not_prefix_of_symbolUpTo? hfind kind h.mem (hlen kind h.mem))
    | some found =>
      obtain ⟨hmem, hfront, hlongest⟩ := isLongest_of_symbolUpTo? hfind
      have hfound : found.IsLongest cs :=
        ⟨hmem, hfront, fun other hother => hlongest other hother (hlen other hother)⟩
      rw [h.unique hfound]

/-- No spelling is found exactly when the first character is none by itself. -/
theorem symbolUpTo?_eq_none_iff {c : Char} {cs : List Char} :
    symbolUpTo? (c :: cs) Kind.longestSymbol = none ↔ Kind.ofSymbol? [c] = none := by
  constructor
  · intro h
    rw [Kind.ofSymbol?_eq_none_iff]
    intro k hk heq
    have hlen := Kind.length_glyphs_le_longestSymbol k hk
    exact not_prefix_of_symbolUpTo? h k hk hlen ⟨cs, by rw [heq]; rfl⟩
  · intro h
    cases hfind : symbolUpTo? (c :: cs) Kind.longestSymbol with
    | none => rfl
    | some k =>
      have hk := symbolUpTo?_eq_some_iff.mp hfind
      have hpre : [c] <+: k.glyphs := by
        have hfirst : [c] <+: c :: cs := ⟨cs, rfl⟩
        apply List.prefix_of_prefix_length_le hfirst hk.front
        exact List.length_pos_iff.mpr (Kind.glyphs_ne_nil_of_mem_symbols k hk.mem)
      have hsome := Kind.isSome_ofSymbol?_of_prefix hk.mem (by simp) hpre
      rw [h] at hsome
      cases hsome

end FrontEnd.Lexeme
