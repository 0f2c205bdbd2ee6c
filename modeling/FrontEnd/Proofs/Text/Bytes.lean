/-
# FrontEnd.Proofs.Text.Bytes — the UTF-8 form of a text, byte by byte.

A text is held as characters, and `Utf8.byte?` looks at the bytes that they are written in.  An ASCII
character is written as one byte, which is its number; the first byte of any other character is no
ASCII byte.  So as long as only ASCII bytes have come by, bytes and characters have been the same in
number, and the byte at an index gives the character at that index
(`getElem?_of_ascii_bytes`).
-/
import FrontEnd.Text.Utf8

namespace FrontEnd.Utf8

/-! ## The bytes of a text -/

/-- The bytes of the UTF-8 form of `cs`. -/
def bytes (cs : List Char) : List UInt8 := cs.flatMap String.utf8EncodeChar

theorem bytes_cons (c : Char) (cs : List Char) :
    bytes (c :: cs) = String.utf8EncodeChar c ++ bytes cs := rfl

theorem bytes_append (a b : List Char) : bytes (a ++ b) = bytes a ++ bytes b :=
  List.flatMap_append

theorem length_bytes (cs : List Char) : (bytes cs).length = size cs := by
  induction cs with
  | nil => rfl
  | cons c cs ih => rw [bytes_cons, List.length_append, String.length_utf8EncodeChar, ih, size_cons]

/-- They are the bytes that a string is held as. -/
theorem toList_toUTF8 (s : String) : s.toUTF8.data.toList = bytes s.toList := by
  conv => lhs; rw [← String.ofList_toList (s := s)]
  rw [String.toUTF8_eq_toByteArray, String.toByteArray_ofList, List.utf8Encode,
    List.data_toByteArray]
  rfl

theorem byte?_eq (s : String) (i : Nat) : byte? s i = (bytes s.toList)[i]? := by
  rw [← toList_toUTF8, Array.getElem?_toList]
  unfold byte?
  split
  · rename_i h
    exact (Array.getElem?_eq_getElem h).symm
  · rename_i h
    exact (Array.getElem?_eq_none (Nat.not_lt.mp h)).symm

/-! ## ASCII -/

/-- An ASCII character is written as one byte, which can be read back. -/
theorem exists_byte_of_ascii {c : Char} (h : c.toNat < 128) :
    ∃ b, String.utf8EncodeChar c = [b] ∧ b < 128 ∧ Char.ofUInt8 b = c := by
  refine ⟨.ofNat c.toNat, ?_, ?_, ?_⟩
  · have hle : c.val.toNat ≤ 127 := Nat.le_of_lt_succ h
    simp only [String.utf8EncodeChar, if_pos hle]
    rfl
  · rw [UInt8.lt_iff_toNat_lt, UInt8.toNat_ofNat']
    show c.toNat % 256 < 128
    omega
  · apply Char.toNat_inj.mp
    show (UInt8.ofNat c.toNat).toUInt32.toNat = c.toNat
    rw [UInt8.toNat_toUInt32, UInt8.toNat_ofNat']
    omega

/-- Any other character is written as several bytes, the first of which is no ASCII byte. -/
theorem exists_lead_of_not_ascii {c : Char} (h : 128 ≤ c.toNat) :
    ∃ b bs, String.utf8EncodeChar c = b :: bs ∧ 128 ≤ b := by
  have hlead (n : Nat) (hn : n < 256) (hge : 128 ≤ n) : 128 ≤ UInt8.ofNat n := by
    rw [UInt8.le_iff_toNat_le, UInt8.toNat_ofNat', Nat.mod_eq_of_lt hn]
    exact hge
  have hgt : ¬ c.val.toNat ≤ 127 := Nat.not_le.mpr h
  simp only [String.utf8EncodeChar, if_neg hgt]
  split
  · exact ⟨_, _, rfl, hlead _ (by omega) (by omega)⟩
  · split
    · exact ⟨_, _, rfl, hlead _ (by omega) (by omega)⟩
    · exact ⟨_, _, rfl, hlead _ (by omega) (by omega)⟩

/-- A text whose first byte is ASCII starts with the character that this byte gives. -/
theorem exists_cons_of_ascii {cs : List Char} {b : UInt8} {bs : List UInt8}
    (hbytes : bytes cs = b :: bs) (hb : b < 128) :
    ∃ ds, cs = Char.ofUInt8 b :: ds ∧ bytes ds = bs := by
  cases cs with
  | nil => cases hbytes
  | cons c ds =>
    rw [bytes_cons] at hbytes
    rcases Nat.lt_or_ge c.toNat 128 with hc | hc
    · obtain ⟨d, hencode, -, hread⟩ := exists_byte_of_ascii hc
      rw [hencode] at hbytes
      obtain ⟨rfl, hrest⟩ := List.cons.inj hbytes
      exact ⟨ds, by rw [hread], hrest⟩
    · obtain ⟨d, more, hencode, hd⟩ := exists_lead_of_not_ascii hc
      rw [hencode] at hbytes
      obtain ⟨rfl, -⟩ := List.cons.inj hbytes
      exact absurd hb (UInt8.not_lt.mpr hd)

/-- While all bytes up to an index are ASCII, the byte there gives the character there. -/
theorem getElem?_of_ascii_bytes {cs : List Char} {n : Nat} (hlength : n < (bytes cs).length)
    (hascii : ∀ b ∈ (bytes cs).take (n + 1), b < 128) :
    cs[n]? = (bytes cs)[n]?.map Char.ofUInt8 := by
  induction n generalizing cs with
  | zero =>
    obtain ⟨b, bs, hbytes⟩ := List.exists_cons_of_length_pos hlength
    rw [hbytes, List.take_succ_cons] at hascii
    obtain ⟨ds, rfl, -⟩ := exists_cons_of_ascii hbytes (hascii b List.mem_cons_self)
    rw [hbytes]
    rfl
  | succ n ih =>
    obtain ⟨b, bs, hbytes⟩ := List.exists_cons_of_length_pos (Nat.zero_lt_of_lt hlength)
    rw [hbytes, List.take_succ_cons, List.forall_mem_cons] at hascii
    obtain ⟨hb, hrest⟩ := hascii
    obtain ⟨ds, rfl, rfl⟩ := exists_cons_of_ascii hbytes hb
    rw [hbytes, List.length_cons] at hlength
    rw [hbytes, List.getElem?_cons_succ, List.getElem?_cons_succ]
    exact ih (Nat.lt_of_succ_lt_succ hlength) hrest

/-- A run of ASCII bytes lies within the text, and each of its bytes is ASCII. -/
theorem isAsciiRun_iff {s : String} {i n : Nat} :
    isAsciiRun s i n = true ↔
      n ≤ ((bytes s.toList).drop i).length ∧ ∀ b ∈ ((bytes s.toList).drop i).take n, b < 128 := by
  induction n generalizing i with
  | zero => simp [isAsciiRun]
  | succ n ih =>
    rw [isAsciiRun, byte?_eq]
    rcases hdrop : (bytes s.toList).drop i with _ | ⟨b, bs⟩
    · have hnone : (bytes s.toList)[i]? = none := by
        rw [← Nat.add_zero i, ← List.getElem?_drop, hdrop]
        rfl
      simp [hnone]
    · have hsome : (bytes s.toList)[i]? = some b := by
        rw [← Nat.add_zero i, ← List.getElem?_drop, hdrop]
        rfl
      have hrest : (bytes s.toList).drop (i + 1) = bs := by
        rw [← List.drop_drop, hdrop]
        rfl
      rw [hsome]
      dsimp only
      split
      · rename_i hb
        rw [ih, hrest]
        simp [hb]
      · rename_i hb
        simp [hb]

end FrontEnd.Utf8
