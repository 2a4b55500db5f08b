/-
ZonedSet.Proofs.Mounts.Written — what is seen of the tables that the kernel writes.

The kernel ends the source of a mount with a space, and escapes the spaces, tabs and line feeds in
it. A reader ends the source at any blank. Other blanks are in no need of an escape for the kernel,
so it writes them as they are (`isBare`), and there the reader takes them for the end of the source.
What it sees of an entry is the first run of other characters in the source (`Entry.seen`); of a
source without any, it sees nothing and takes the next word of the line.

So a table without bare blanks in its sources is read for what it says, and from any other table
some sources are missing (`isMounted_written`).
-/
import ZonedSet.Proofs.Mounts.Escapes
import ZonedSet.Proofs.Opening.Mounted
import ZonedSet.Proofs.Text.Blank

namespace ZonedSet

namespace MountTable

/-! ## Blanks that are not escaped -/

/-- A blank that the kernel writes as it is. -/
def isBare (c : Char) : Bool := Text.isBlank c && !(c == ' ' || c == '\t' || c == '\n')

theorem escapeText_cons (c : Char) (text : List Char) :
    escapeText (c :: text) = escapeChar c ++ escapeText text := rfl

theorem isBlank_of_isBare {c : Char} (h : isBare c = true) : Text.isBlank c = true := by
  simp only [isBare, Bool.and_eq_true] at h
  exact h.1

theorem escapeChar_of_bare {c : Char} (h : isBare c = true) : escapeChar c = [c] := by
  rcases escapeChar_cases c with (rfl | rfl | rfl | rfl) | ⟨-, hself⟩
  · cases h
  · cases h
  · cases h
  · cases h
  · exact hself

theorem not_blank_of_all {text : List Char} (h : (text.all fun d => !Text.isBlank d) = true) :
    ∀ d ∈ text, Text.isBlank d = false := by
  simpa using h

/-- Every other character begins with one that is not blank, and goes on with such. -/
theorem escapeChar_of_not_bare {c : Char} (h : isBare c = false) :
    ∃ first more, escapeChar c = first :: more ∧
      ∀ d ∈ first :: more, Text.isBlank d = false := by
  rcases escapeChar_cases c with (rfl | rfl | rfl | rfl) | ⟨⟨hspace, htab, hfeed, -⟩, hself⟩
  · exact ⟨_, _, rfl, not_blank_of_all rfl⟩
  · exact ⟨_, _, rfl, not_blank_of_all rfl⟩
  · exact ⟨_, _, rfl, not_blank_of_all rfl⟩
  · exact ⟨_, _, rfl, not_blank_of_all rfl⟩
  · have hblank : Text.isBlank c = false := by simpa [isBare, hspace, htab, hfeed] using h
    exact ⟨c, [], hself, List.forall_mem_singleton.mpr hblank⟩

theorem dropWhile_escapeText (text tail : List Char) :
    (escapeText text ++ tail).dropWhile Text.isBlank =
      if text.dropWhile isBare = [] then tail.dropWhile Text.isBlank
      else escapeText (text.dropWhile isBare) ++ tail := by
  induction text with
  | nil => rfl
  | cons c rest ih =>
    rw [escapeText_cons, List.append_assoc]
    cases hc : isBare c with
    | true =>
      have hblank := isBlank_of_isBare hc
      rw [escapeChar_of_bare hc, List.singleton_append, List.dropWhile_cons_of_pos hblank,
        List.dropWhile_cons_of_pos hc, ih]
    | false =>
      obtain ⟨first, more, heq, hnone⟩ := escapeChar_of_not_bare hc
      have hfirst : ¬ Text.isBlank first = true := by simp [hnone first List.mem_cons_self]
      rw [List.dropWhile_cons_of_neg (by simp [hc]), if_neg (by simp), escapeText_cons, heq,
        List.cons_append, List.dropWhile_cons_of_neg hfirst, List.cons_append, List.cons_append,
        List.append_assoc]

theorem takeWhile_escapeText (text tail : List Char) :
    (escapeText text ++ ' ' :: tail).takeWhile (fun c => !Text.isBlank c) =
      escapeText (text.takeWhile fun c => !isBare c) := by
  induction text with
  | nil => rfl
  | cons c rest ih =>
    rw [escapeText_cons, List.append_assoc]
    cases hc : isBare c with
    | true =>
      have hblank := isBlank_of_isBare hc
      rw [escapeChar_of_bare hc, List.singleton_append,
        List.takeWhile_cons_of_neg (by simp [hblank]), List.takeWhile_cons_of_neg (by simp [hc])]
      rfl
    | false =>
      obtain ⟨first, more, heq, hnone⟩ := escapeChar_of_not_bare hc
      rw [List.takeWhile_append_of_pos (by simpa [heq] using hnone), ih,
        List.takeWhile_cons_of_pos (by simp [hc]), escapeText_cons]

/-! ## Entries -/

/-- What the kernel has to say of a mount: its source, and the rest of the line. -/
structure Entry where
  source : List Char
  rest : List UInt8
  source_ne_nil : source ≠ []
  feed_not_mem : 0x0A ∉ rest

/-- The line of an entry. -/
def Entry.line (e : Entry) : List UInt8 := escape (Text.Utf8.encode e.source) ++ 0x20 :: e.rest

/-- A mount table as the kernel writes it. -/
def write (entries : List Entry) : List UInt8 := entries.flatMap fun e => e.line ++ [0x0A]

/-- The rest of the line is UTF-8. -/
def Entry.Readable (e : Entry) : Prop := none ∉ Text.Utf8.decode e.rest

instance (e : Entry) : Decidable e.Readable :=
  inferInstanceAs (Decidable (none ∉ Text.Utf8.decode e.rest))

/-- The source that a reader sees: the first run of characters that are not bare blanks, or the
source that the next word stands for. -/
def Entry.seen (e : Entry) : Option (List Char) :=
  match e.source.dropWhile isBare with
  | [] => (Text.firstWord? (Text.Utf8.decodeLossy e.rest)).map MountTable.source
  | word => some (word.takeWhile fun c => !isBare c)

/-- The text of a line. -/
def Entry.text (e : Entry) : List Char :=
  escapeText e.source ++ ' ' :: Text.Utf8.decodeLossy e.rest

/-- **The first word of the line is what is seen.** -/
theorem firstWord?_text (e : Entry) : (Text.firstWord? e.text).map MountTable.source = e.seen := by
  have hdrop := dropWhile_escapeText e.source (' ' :: Text.Utf8.decodeLossy e.rest)
  unfold Entry.text Entry.seen
  cases hword : e.source.dropWhile isBare with
  | nil =>
    rw [hword, if_pos rfl] at hdrop
    rw [Text.firstWord?, hdrop]
    rfl
  | cons c more =>
    rw [hword, if_neg (by simp)] at hdrop
    rw [Text.firstWord?_of_dropWhile hdrop (by simp), takeWhile_escapeText, Option.map_some,
      source_escapeText]

theorem feed_not_mem_escapeText (text : List Char) : '\n' ∉ escapeText text := by
  intro h
  obtain ⟨c, -, hc⟩ := List.mem_flatMap.mp h
  cases hbare : isBare c with
  | true =>
    rw [escapeChar_of_bare hbare, List.mem_singleton] at hc
    rw [← hc] at hbare
    revert hbare
    decide
  | false =>
    obtain ⟨first, more, heq, hnone⟩ := escapeChar_of_not_bare hbare
    have hblank := hnone '\n' (heq ▸ hc)
    revert hblank
    decide

theorem feed_not_mem_text (e : Entry) : '\n' ∉ e.text := by
  intro h
  rcases List.mem_append.mp h with hsource | htail
  · exact feed_not_mem_escapeText e.source hsource
  · have hrest : '\n' ∈ Text.Utf8.decodeLossy e.rest := by simpa using htail
    exact Text.Utf8.not_mem_decodeLossy (by decide) e.feed_not_mem hrest

theorem line_eq_encode {e : Entry} (readable : e.Readable) :
    e.line = Text.Utf8.encode e.text := by
  rw [Entry.line, escape_encode, Entry.text, Text.Utf8.encode_append, Text.Utf8.encode_cons,
    ← Text.Utf8.eq_encode_decodeLossy readable]
  rfl

/-! ## Tables -/

theorem none_not_mem_decode_line (e : Entry) :
    none ∉ Text.Utf8.decode e.line ↔ e.Readable := by
  have hspace : Text.Utf8.decode (0x20 :: e.rest) = some ' ' :: Text.Utf8.decode e.rest :=
    Text.Utf8.decode_one e.rest (by decide)
  rw [Entry.line, escape_encode, Text.Utf8.decode_encode_append, hspace]
  simp [Entry.Readable]

/-- What is malformed in a table is malformed in the rest of a line. -/
theorem none_not_mem_decode_write (entries : List Entry) :
    none ∉ Text.Utf8.decode (write entries) ↔ ∀ e ∈ entries, e.Readable := by
  induction entries with
  | nil => simp [write, Text.Utf8.decode]
  | cons e rest ih =>
    have hwrite : write (e :: rest) = e.line ++ 0x0A :: write rest := by simp [write]
    rw [hwrite, Text.Utf8.decode_append_feed, List.forall_mem_cons, ← none_not_mem_decode_line,
      ← ih]
    simp

/-- The text of a table whose lines can be read. -/
def text (entries : List Entry) : List Char := entries.flatMap fun e => e.text ++ ['\n']

theorem write_eq_encode {entries : List Entry} (readable : ∀ e ∈ entries, e.Readable) :
    write entries = Text.Utf8.encode (text entries) := by
  induction entries with
  | nil => rfl
  | cons e rest ih =>
    obtain ⟨he, hrest⟩ := List.forall_mem_cons.mp readable
    have hwrite : write (e :: rest) = e.line ++ [0x0A] ++ write rest := rfl
    have htext : text (e :: rest) = e.text ++ ['\n'] ++ text rest := rfl
    rw [hwrite, htext, Text.Utf8.encode_append, Text.Utf8.encode_append, line_eq_encode he,
      ih hrest]
    rfl

theorem lines_text (entries : List Entry) :
    Text.lines (text entries) = entries.map Entry.text := by
  induction entries with
  | nil => rfl
  | cons e rest ih =>
    have htext : text (e :: rest) = e.text ++ '\n' :: text rest := by simp [text]
    rw [htext, Text.lines_append_feed (feed_not_mem_text e), ih, List.map_cons]

/-- **The sources of a table are what is seen of its entries.** -/
theorem sources_text (entries : List Entry) :
    sources (text entries) = entries.filterMap Entry.seen := by
  rw [sources, lines_text, List.filterMap_map]
  exact congrArg (entries.filterMap ·) (funext firstWord?_text)

/-- A source without bare blanks is seen. -/
theorem seen_eq_source {e : Entry} (h : ∀ c ∈ e.source, isBare c = false) :
    e.seen = some e.source := by
  have htake : e.source.takeWhile (fun c => !isBare c) = e.source :=
    List.takeWhile_eq_self_iff.mpr fun c hc => by simp [h c hc]
  unfold Entry.seen
  cases hsource : e.source with
  | nil => exact absurd hsource e.source_ne_nil
  | cons c rest =>
    rw [hsource] at h htake
    rw [List.dropWhile_cons_of_neg (by simp [h c List.mem_cons_self])]
    exact congrArg some htake

/-- A source with a bare blank in it is not, unless there is nothing else in it. -/
theorem seen_ne_source {e : Entry} (hbare : ∃ c ∈ e.source, isBare c = true)
    (hother : ∃ c ∈ e.source, isBare c = false) : e.seen ≠ some e.source := by
  obtain ⟨c, hc, hbare⟩ := hbare
  obtain ⟨d, hd, hother⟩ := hother
  unfold Entry.seen
  cases hword : e.source.dropWhile isBare with
  | nil =>
    have hall := List.dropWhile_eq_nil_iff.mp hword d hd
    simp [hother] at hall
  | cons first more =>
    intro heq
    have hnone : ∀ x ∈ (first :: more).takeWhile (fun c => !isBare c), (!isBare x) = true :=
      List.all_eq_true.mp List.all_takeWhile
    rw [Option.some.inj heq] at hnone
    simpa [hbare] using hnone c hc

/-! ## What the look into the table finds -/

end MountTable

/-- The path leads to a file with these bytes, and the file can be read. -/
def Storage.Reads (s : Storage) (path : String) (bytes : List UInt8) : Prop :=
  ∃ h image, s.openFile .openRead path = .ok h ∧ s.imageOf h = .ok image ∧ image.toList = bytes

theorem Storage.Reads.readText_ok {s : Storage} {path : String} {bytes : List UInt8}
    (reads : s.Reads path bytes) {text : List Char} (h : Text.Utf8.decode? bytes = some text) :
    s.readText path = .ok text := by
  obtain ⟨hd, image, hopen, himage, rfl⟩ := reads
  simp only [Storage.readText, hopen, himage, h]

theorem Storage.Reads.readText_error {s : Storage} {path : String} {bytes : List UInt8}
    (reads : s.Reads path bytes) (h : Text.Utf8.decode? bytes = none) :
    s.readText path = .error .unknown := by
  obtain ⟨hd, image, hopen, himage, rfl⟩ := reads
  simp only [Storage.readText, hopen, himage, h]

namespace MountTable

variable {s : Storage} {mountTable : String} {entries : List Entry}

/-- What is answered from the bytes of the table. -/
theorem isMounted_of_reads {bytes : List UInt8} (reads : s.Reads mountTable bytes)
    (path : String) :
    isMounted s mountTable path =
      if none ∈ Text.Utf8.decode bytes then
        .error (.os mountTable "read mount table" .unknown)
      else .ok (lists (Text.Utf8.decodeLossy bytes) path.toList) := by
  by_cases h : none ∈ Text.Utf8.decode bytes
  · rw [isMounted, reads.readText_error (Text.Utf8.decode?_eq_none_iff.mpr h), if_pos h]
  · have htext := Text.Utf8.decode?_eq_some_iff.mpr (Text.Utf8.eq_encode_decodeLossy h)
    rw [isMounted, reads.readText_ok htext, if_neg h]

/-- A table of lines that can be read lists what is seen of its entries. -/
theorem isMounted_of_readable (reads : s.Reads mountTable (write entries))
    (readable : ∀ e ∈ entries, e.Readable) (path : String) :
    isMounted s mountTable path = .ok true ↔ ∃ e ∈ entries, e.seen = some path.toList := by
  have hdecode : none ∉ Text.Utf8.decode (write entries) :=
    (none_not_mem_decode_write entries).mpr readable
  rw [isMounted_of_reads reads, if_neg hdecode, write_eq_encode readable,
    Text.Utf8.decodeLossy_encode, Except.ok.injEq, lists_iff, sources_text, List.mem_filterMap]

/-- A table with a line that cannot be read is not read. -/
theorem isMounted_of_not_readable (reads : s.Reads mountTable (write entries))
    (hnot : ¬ ∀ e ∈ entries, e.Readable) (path : String) :
    isMounted s mountTable path = .error (.os mountTable "read mount table" .unknown) := by
  have hdecode : none ∈ Text.Utf8.decode (write entries) :=
    Decidable.not_not.mp (mt (none_not_mem_decode_write entries).mp hnot)
  rw [isMounted_of_reads reads, if_pos hdecode]

/-- **What is seen of the tables that the kernel writes.** A path is found mounted just where all
lines of the table can be read and the path is seen as the source of one. Where no source has a bare
blank, those are the sources. A source with a bare blank is not seen as it is, unless it has no
other characters. -/
theorem isMounted_written (reads : s.Reads mountTable (write entries)) (path : String) :
    (isMounted s mountTable path = .ok true ↔
      (∀ e ∈ entries, e.Readable) ∧ ∃ e ∈ entries, e.seen = some path.toList) ∧
    ((∀ e ∈ entries, e.Readable) → (∀ e ∈ entries, ∀ c ∈ e.source, isBare c = false) →
      (isMounted s mountTable path = .ok true ↔ ∃ e ∈ entries, e.source = path.toList)) ∧
    ∀ e : Entry, (∃ c ∈ e.source, isBare c = true) → (∃ c ∈ e.source, isBare c = false) →
      e.seen ≠ some e.source := by
  refine ⟨?_, ?_, fun e => seen_ne_source⟩
  · by_cases readable : ∀ e ∈ entries, e.Readable
    · rw [isMounted_of_readable reads readable]
      exact (and_iff_right readable).symm
    · rw [isMounted_of_not_readable reads readable]
      exact iff_of_false nofun fun h => readable h.1
  · intro readable plain
    rw [isMounted_of_readable reads readable]
    constructor
    · rintro ⟨e, he, hseen⟩
      rw [seen_eq_source (plain e he)] at hseen
      exact ⟨e, he, Option.some.inj hseen⟩
    · rintro ⟨e, he, hsource⟩
      exact ⟨e, he, hsource ▸ seen_eq_source (plain e he)⟩

/-! ## A vertical tab in a source

The file has a vertical tab for its other name, and is mounted by it. The kernel writes the tab as
it is. -/

def tabStorage : Storage := Backing.mountedAs 0x0B ("\x0b", 5)

def tabEntry : Entry := ⟨['/', '\x0b'], [0x2F, 0x6D, 0x6E, 0x74], by decide, by decide⟩

theorem reads_tabStorage : tabStorage.Reads "/proc/mounts" (write [tabEntry]) :=
  ⟨⟨4, "/proc/mounts"⟩, .ofBytes #[0x2F, 0x0B, 0x20, 0x2F, 0x6D, 0x6E, 0x74, 0x0A],
    eq_ok_of_toOption (by decide +kernel), rfl, by decide +kernel⟩

/-- What is seen as mounted is the root. -/
theorem isMounted_written_tabStorage :
    tabStorage.Reads "/proc/mounts" (write [tabEntry]) ∧
      isMounted tabStorage "/proc/mounts" "/" = .ok true := by
  have h := isMounted_written reads_tabStorage "/"
  exact ⟨reads_tabStorage, h.1.mpr ⟨by decide, tabEntry, List.mem_singleton_self _, by decide⟩⟩

/-- The file is mounted and not found. -/
theorem mounted_file_not_seen :
    tabStorage.Reads "/proc/mounts" (write [tabEntry]) ∧
      tabEntry.Readable ∧ tabEntry.source = "/\x0b".toList ∧
      tabStorage.stat "/\x0b" = .ok .regular ∧
      isMounted tabStorage "/proc/mounts" "/\x0b" = .ok false :=
  ⟨reads_tabStorage, by decide, by decide, eq_ok_of_toOption (by decide +kernel),
    eq_ok_of_toOption (by decide +kernel)⟩

end MountTable

end ZonedSet
