/-
# FrontEnd.Proofs.Header.Excerpt — a header that is cut out of its text reads as it did.

The span of a header goes from the start of its first token to the end of the semicolon.  Between
them there may be anything that a scanner passes over, but the tokens are those of the header, and a
scanner in front of that stretch alone hands them out again (`Scanner.Replayable`).  So reading the
stretch by itself gives the header once more, public or not as before and with the same name, and
nothing is left behind it.
-/
import FrontEnd.Proofs.Header.Reader
import FrontEnd.Proofs.Place
import FrontEnd.Proofs.Scanner.Replay

namespace FrontEnd

namespace Scanner

variable {s u : Scanner} {n : Nat}

theorem mem_kinds {i : Nat} (h : i < n) : (s.tokenAt i).kind ∈ s.kinds n :=
  List.mem_map_of_mem (List.mem_range.mpr h)

/-- Tokens that read the same are of the same kinds. -/
theorem Replays.kinds_eq {text : List Char} (h : u.Replays text s n) : u.kinds n = s.kinds n := by
  apply List.map_congr_left
  intro i hi
  exact congrArg Prod.fst (h.entries i (List.mem_range.mp hi))

end Scanner

namespace Header

theorem endOfText_not_mem_shape (isPublic : Bool) : .endOfText ∉ shape isPublic := by
  cases isPublic <;> decide

namespace Reader

/-- A header is read where one stands. -/
theorem exists_accepts_of_begins {s : Scanner} {isPublic : Bool} (h : s.Begins (shape isPublic)) :
    ∃ header r, (ofScanner s).read = (some header, r) ∧ header.isPublic = isPublic ∧
      r.Accepts s header := by
  have hfirst : s.kinds (isPublic.toNat + 2 + 1) <+: shape isPublic := by
    rw [← length_shape, h]
  obtain ⟨b, hpublic, hcases⟩ := read_cases s
  obtain rfl : b = isPublic :=
    Bool.eq_iff_iff.mpr (hpublic.trans (isPublic_iff_of_kinds hfirst).symm)
  obtain ⟨name, r, hread, hname, hpast⟩ | ⟨ks, required, r, -, hnext, hr⟩ := hcases
  · exact ⟨_, r, hread, rfl, hpast.accepts hpublic hname⟩
  · -- the tokens that are asked for all stand there
    have hlength : ks.length + 1 ≤ (shape b).length := by
      have hle := hnext.length_le
      rwa [List.length_append] at hle
    have hprefix := s.kinds_prefix hlength
    rw [h] at hprefix
    have hdeparts := not_kinds_prefix hpublic hnext hr.begins hr.departs b
    exact absurd hprefix hdeparts

theorem accepts_of_read {s : Scanner} {header : Header}
    (h : (ofScanner s).read.1 = some header) : (ofScanner s).read.2.Accepts s header := by
  obtain ⟨isPublic, hpublic, ⟨name, r, hread, hname, hpast⟩ | ⟨ks, required, r, hread, -⟩⟩ :=
    read_cases s
  · rw [hread] at h ⊢
    obtain rfl := Option.some.inj h
    exact hpast.accepts hpublic hname
  · rw [hread] at h
    cases h

section

variable {r : Reader} {s u : Scanner} {header : Header}

/-- None of the tokens of a header is the end token. -/
theorem Accepts.isEnd_tokenAt (h : r.Accepts s header) :
    ∀ i < header.isPublic.toNat + 3, (s.tokenAt i).isEnd = false := by
  intro i hi
  have hmem := Scanner.mem_kinds (s := s) hi
  rw [← length_shape, h.begins] at hmem
  apply beq_eq_false_iff_ne.mpr
  intro hkind
  rw [hkind] at hmem
  exact endOfText_not_mem_shape _ hmem

/-- A header stops where the scanner stood when it had handed out the semicolon. -/
theorem Accepts.stop_eq (h : r.Accepts s header) :
    header.span.stop = (s.after (header.isPublic.toNat + 3)).cursor.place.offset := by
  rw [h.span]
  exact (s.after (header.isPublic.toNat + 2)).span_next.2.2

/-- The name of a header is the text of its identifier. -/
theorem Accepts.resolve_name (h : r.Accepts s header) :
    r.resolve header.name = (s.entryAt (header.isPublic.toNat + 1)).2 := by
  have hstrings : r.scanner.strings = (s.after (header.isPublic.toNat + 3 + 1)).strings :=
    h.holds.takes.inStep.strings
  have hgrows := (s.grows_after (header.isPublic.toNat + 2) 2).strings
  rw [← hstrings] at hgrows
  have hplain := Scanner.plain_tokenAt_of_extends (Nat.lt_succ_self _) hgrows
  have htext : (s.tokenAt (header.isPublic.toNat + 1)).text r.scanner.strings =
      r.resolve header.name := by
    rw [Token.text, h.name]
    rfl
  rw [← htext]
  exact congrArg Token.Plain.text hplain

/-- Where the tokens of a header come out again, the header is read again. -/
theorem Accepts.exists_read_of_replays {text : List Char} (h : r.Accepts s header)
    (hreplays : u.Replays text s (header.isPublic.toNat + 3)) :
    ∃ header' r', (ofScanner u).read = (some header', r') ∧ r'.Accepts u header' ∧
      header'.isPublic = header.isPublic ∧ r'.resolve header'.name = r.resolve header.name := by
  have hbegins : u.Begins (shape header.isPublic) := by
    have hkinds := hreplays.kinds_eq
    rw [← length_shape, h.begins] at hkinds
    exact hkinds
  obtain ⟨header', r', hread, hpublic, haccepts⟩ := exists_accepts_of_begins hbegins
  refine ⟨header', r', hread, haccepts, hpublic, ?_⟩
  rw [haccepts.resolve_name, h.resolve_name, hpublic]
  exact congrArg Prod.snd (hreplays.entries _ (by omega))

/-- A header starts behind a gap, and the text from there on gives its tokens by itself, the first
of them at once. -/
theorem Accepts.exists_excerpt (h : r.Accepts s header) :
    ∃ gap text, s.cursor.Passes (gap ++ text) (s.after (header.isPublic.toNat + 3)).cursor ∧
      header.span.start = (s.cursor.place.after gap).offset ∧
      ∀ u : Scanner, u.cursor.rest = text → u.Replays text s (header.isPublic.toNat + 3) ∧
        (u.tokenAt 0).span = .between u.cursor.place (u.after 1).cursor.place := by
  have hend := h.isEnd_tokenAt
  have hothers : ∀ i < header.isPublic.toNat + 2, ((s.after 1).tokenAt i).isEnd = false :=
    Scanner.isEnd_tokenAt_after hend
  obtain ⟨text, htext⟩ := Scanner.exists_replayable hothers
  obtain ⟨gap, word, hwhole, hstart, hexcerpt⟩ :=
    Scanner.exists_replayable_succ (hend 0 (Nat.succ_pos _)) htext
  refine ⟨gap, word ++ text, (hwhole.replays (Or.inl rfl) hwhole.rest).passes, ?_, ?_⟩
  · rw [h.span]
    exact hstart
  · -- no text at all can take the place of the one behind the semicolon
    intro u hu
    have hseam : Seam (s.after (header.isPublic.toNat + 3)).cursor.rest [] := Or.inr (by simp)
    apply hexcerpt hseam
    rw [hu, List.append_nil]

end

/-- The stretch of text that a header's span covers reads as a header when it is put before a new
reader, in any compilation.  It is public if the other is, has a name of the same text, and covers
the whole stretch from its first byte on.  The reader makes no complaint and stands at the end. -/
theorem read_excerpt (c : Compilation) (source : String) (header : Header)
    (h : (ofScanner (.ofText c source)).read.1 = some header) :
    let r := (ofScanner (.ofText c source)).read.2
    ∃ text : String,
      Utf8.slice? source.toList header.span.start header.span.stop = some text.toList ∧
      ∀ c' : Compilation,
        let s := Scanner.ofText c' text
        let result := (ofScanner s).read
        ∃ header', result.1 = some header' ∧ header'.isPublic = header.isPublic ∧
          result.2.resolve header'.name = r.resolve header.name ∧
          header'.span = ⟨0, text.utf8ByteSize, 0, 0⟩ ∧
          result.2.scanner.complaintsSince s = [] ∧ result.2.errors = 0 ∧
          result.2.current.isEnd = true := by
  intro r
  have haccepts : r.Accepts (.ofText c source) header := accepts_of_read h
  obtain ⟨gap, text, hpasses, hstart, hexcerpt⟩ := haccepts.exists_excerpt
  refine ⟨.ofList text, ?_, ?_⟩
  · have hsource : source.toList = gap ++ text ++ _ := hpasses.rest
    have hstop : header.span.stop = Utf8.size gap + Utf8.size text := by
      rw [haccepts.stop_eq, hpasses.place, ← Utf8.size_append]
      exact Place.offset_after_origin _
    have hstart' : header.span.start = Utf8.size gap :=
      hstart.trans (Place.offset_after_origin gap)
    rw [hsource, hstart', hstop, String.toList_ofList]
    exact Utf8.slice?_append gap text _
  · intro c' s result
    obtain ⟨hreplays, hfirst⟩ := hexcerpt s String.toList_ofList
    obtain ⟨header', r', hread, haccepts', hpublic, hname⟩ :=
      haccepts.exists_read_of_replays hreplays
    have hresult : result = (some header', r') := hread
    rw [hresult]
    have hall := hreplays.passes
    rw [← hpublic] at hall
    have hrest := hall.rest_eq (String.toList_ofList.trans (List.append_nil text).symm)
    refine ⟨header', rfl, hpublic, hname, ?_, haccepts'.complaints, haccepts'.errors, ?_⟩
    · have hstop : header'.span.stop = (String.ofList text).utf8ByteSize := by
        rw [haccepts'.stop_eq, hall.place, ← Utf8.size_toList, String.toList_ofList]
        exact Place.offset_after_origin text
      have hspan := haccepts'.span
      rw [hfirst] at hspan
      rw [← hstop, hspan]
      rfl
    · have hcurrent : r'.current = (s.after (header'.isPublic.toNat + 3)).next.1 :=
        haccepts'.holds.current
      rw [hcurrent, Scanner.next_of_rest_nil hrest]
      rfl

/-- A comment stands in front of the header, and a stray character, a comment and a new line inside
it.  What follows the semicolon starts with no blank. -/
theorem read_excerpt_stray_character :
    let c : Compilation := .withoutLog .standard (.ofDisk .fresh fun _ => 0)
    let source := "// é\npub @ module /* c */\n m;const"
    let header : Header := ⟨true, ⟨0⟩, ⟨6, 30, 1, 0⟩⟩
    (ofScanner (.ofText c source)).read.1 = some header ∧
      Utf8.slice? source.toList 6 30 = some "pub @ module /* c */\n m;".toList ∧
      ∀ c' : Compilation,
        let s := Scanner.ofText c' "pub @ module /* c */\n m;"
        let result := (ofScanner s).read
        ∃ header', result.1 = some header' ∧ header'.isPublic = true ∧
          result.2.resolve header'.name = "m" ∧ header'.span = ⟨0, 24, 0, 0⟩ ∧
          result.2.scanner.complaintsSince s = [] ∧ result.2.errors = 0 ∧
          result.2.current.isEnd = true := by
  intro c source header
  have hread : (ofScanner (.ofText c source)).read.1 = some header := by decide +kernel
  have hslice : Utf8.slice? source.toList 6 30 = some "pub @ module /* c */\n m;".toList := by
    decide +kernel
  have hname : (ofScanner (.ofText c source)).read.2.resolve ⟨0⟩ = "m" := by decide +kernel
  obtain ⟨text, htext, hexcerpt⟩ := read_excerpt c source header hread
  obtain rfl : "pub @ module /* c */\n m;" = text :=
    String.toList_inj.mp (Option.some.inj (hslice.symm.trans htext))
  refine ⟨hread, hslice, ?_⟩
  intro c' s result
  obtain ⟨header', hresult, hpublic, hsame, hspan, hothers⟩ := hexcerpt c'
  exact ⟨header', hresult, hpublic, hsame.trans hname, hspan, hothers⟩

end Reader

end Header

end FrontEnd
