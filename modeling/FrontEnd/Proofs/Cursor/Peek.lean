/-
# FrontEnd.Proofs.Cursor.Peek — looking ahead by bytes and looking ahead by characters.

Looking ahead takes a short cut: while the bytes up to the one asked for are ASCII, the byte is the
answer, and no character is decoded.  The bytes behind the position of a coherent cursor are those of
its unconsumed text (`Coherent.drop_bytes`), so the short cut is taken just when that text starts
with so many ASCII bytes (`Coherent.isAsciiRun_iff`), and the answer is the same by both ways
(`Coherent.peek_eq`).
-/
import FrontEnd.Proofs.Cursor.Operation
import FrontEnd.Proofs.Text.Bytes

namespace FrontEnd.Cursor

section

variable {c : Cursor}

/-- The bytes of the source from the position on are those of the unconsumed text. -/
theorem Coherent.drop_bytes (h : c.Coherent) :
    (Utf8.bytes c.source.toList).drop c.place.offset = Utf8.bytes c.rest := by
  obtain ⟨before, hsource, hoffset⟩ := h.exists_before
  rw [hsource, hoffset, ← Utf8.length_bytes, Utf8.bytes_append, List.drop_left]

/-- The short cut is taken when so many bytes are left and all of them are ASCII. -/
theorem Coherent.isAsciiRun_iff (h : c.Coherent) {n : Nat} :
    Utf8.isAsciiRun c.source c.place.offset (n + 1) = true ↔
      n < (Utf8.bytes c.rest).length ∧ ∀ b ∈ (Utf8.bytes c.rest).take (n + 1), b < 128 := by
  rw [Utf8.isAsciiRun_iff, h.drop_bytes]
  exact Iff.rfl

/-- The byte that the short cut looks at. -/
theorem Coherent.byte?_eq (h : c.Coherent) (n : Nat) :
    Utf8.byte? c.source (c.place.offset + n) = (Utf8.bytes c.rest)[n]? := by
  rw [Utf8.byte?_eq, ← List.getElem?_drop, h.drop_bytes]

/-- By either way, looking ahead gives the character so many characters ahead. -/
theorem Coherent.peek_eq (h : c.Coherent) (n : Nat) : c.peek n = c.rest[n]? := by
  unfold peek
  split
  · rename_i hrun
    obtain ⟨hlength, hascii⟩ := h.isAsciiRun_iff.mp hrun
    rw [h.byte?_eq, Utf8.getElem?_of_ascii_bytes hlength hascii]
  · rfl

end

/-- Wherever operations take a cursor, the unconsumed text stands behind its position in the source.
Looking ahead by `n` takes the short cut if more than `n` bytes of that text are left and the first
`n + 1` of them are ASCII, and only then; the byte it answers from is one of them, so that it never
looks beyond the source.  Either way the answer is the character at `n` of the unconsumed text, and
there is none just when the text has no more than `n` characters. -/
theorem peek_exact (source : String) (ops : List Operation) (n : Nat) :
    let c := (ofString source).performAll ops
    let bytes := c.remaining.toUTF8.data.toList
    let shortCut := Utf8.isAsciiRun c.source c.place.offset (n + 1)
    c.source = source ∧
      Utf8.drop? c.place.offset source.toList = some c.remaining.toList ∧
      (shortCut = true ↔ n < bytes.length ∧ ∀ b ∈ bytes.take (n + 1), b < 128) ∧
      (shortCut = true → c.place.offset + n < source.utf8ByteSize ∧
        ∃ b, bytes[n]? = some b ∧ Utf8.byte? source (c.place.offset + n) = some b ∧
          c.peek n = some (Char.ofUInt8 b)) ∧
      c.peek n = c.remaining.toList[n]? ∧ c.first = c.remaining.toList.head? ∧
      (c.peek n = none ↔ c.remaining.toList.length < n + 1) ∧
      (c.hasNext n = true ↔ n < c.remaining.toList.length) := by
  intro c bytes shortCut
  have hcoherent : c.Coherent := coherent_performAll source ops
  have hexact := exact_performAll source ops []
  have hsource : c.source = source := hexact.source_eq
  have hremaining : c.remaining.toList = c.rest := String.toList_ofList
  have hbytes : bytes = Utf8.bytes c.rest := by
    rw [← hremaining]
    exact Utf8.toList_toUTF8 c.remaining
  have hpeek := hcoherent.peek_eq
  rw [hremaining]
  refine ⟨hsource, ?_, ?_, ?_, hpeek n, ?_, ?_, ?_⟩
  · rw [← hremaining]
    exact hexact.remaining
  · rw [hbytes]
    exact hcoherent.isAsciiRun_iff
  · intro hrun
    obtain ⟨hlength, hascii⟩ := hcoherent.isAsciiRun_iff.mp hrun
    have hsize : c.place.offset + (Utf8.bytes c.rest).length = source.utf8ByteSize := by
      rw [Utf8.length_bytes, ← hsource]
      exact hcoherent.offset_add_size
    have hbyte : (Utf8.bytes c.rest)[n]? = some (Utf8.bytes c.rest)[n] :=
      List.getElem?_eq_getElem hlength
    refine ⟨by omega, (Utf8.bytes c.rest)[n], ?_, ?_, ?_⟩
    · rw [hbytes, hbyte]
    · rw [← hsource, hcoherent.byte?_eq, hbyte]
    · rw [hpeek, Utf8.getElem?_of_ascii_bytes hlength hascii, hbyte]
      rfl
  · rw [first, hpeek, List.head?_eq_getElem?]
  · rw [hpeek, List.getElem?_eq_none_iff, Nat.lt_succ_iff]
  · rw [hasNext, hpeek, isSome_getElem?]

/-- Behind the two bytes of the first character, the short cut is taken as far as the next character
of two bytes; there the characters are counted. -/
example :
    let c := (ofString "éab+ü;").performAll [.advance]
    Utf8.isAsciiRun c.source c.place.offset 3 = true ∧ c.peek 2 = some '+' ∧
      Utf8.isAsciiRun c.source c.place.offset 5 = false ∧ c.peek 4 = some ';' ∧
      c.peek 5 = none := by
  decide +kernel

end FrontEnd.Cursor
