/-
ZonedSet.Proofs.Mounts.Escapes — what is escaped is read back.

The kernel writes four bytes as escapes: the space, the tab, the line feed and the backslash. All
backslashes in what it writes therefore begin escapes of its own, and reading from left to right
meets every escape at its beginning (`unescape_escape_append`).

The four bytes are ASCII, so no character but these four has one of them in its encoding. Escaping
the bytes of a text is escaping its characters (`escape_encode`), and the escapes that a line's
first word is made of come back as the text that was written (`source_reads_back`).
-/
import ZonedSet.MountTable
import ZonedSet.Proofs.Text.Utf8

namespace ZonedSet.MountTable

/-! ## Bytes -/

theorem unescape_cons_of_ne {b : UInt8} (h : b ≠ backslash) (rest : List UInt8) :
    unescape (b :: rest) = b :: unescape rest := by
  rw [unescape.eq_def]
  simp only [if_neg h]

theorem unescape_escaped {x y z v : UInt8} (h : escaped? x y z = some v) (rest : List UInt8) :
    unescape (backslash :: x :: y :: z :: rest) = v :: unescape rest := by
  rw [unescape.eq_def]
  simp only [if_pos, h]

theorem toNat_digit {d : UInt8} (h : d.toNat < 8) : (0x30 + d).toNat = 0x30 + d.toNat := by
  have hzero : (0x30 : UInt8).toNat = 0x30 := rfl
  rw [UInt8.toNat_add, hzero]
  omega

theorem octalDigit?_digit {d : UInt8} (h : d.toNat < 8) :
    octalDigit? (0x30 + d) = some d.toNat := by
  unfold octalDigit?
  simp only [UInt8.le_iff_toNat_le, toNat_digit h, UInt8.toNat_ofNat]
  rw [if_pos (by omega)]
  congr 1
  omega

theorem leadDigit?_digit {d : UInt8} (h : d.toNat < 8) : leadDigit? (0x30 + d) = some d.toNat := by
  have hplus : 0x30 + d ≠ 0x2B := by
    intro heq
    have hplus : (0x2B : UInt8).toNat = 0x2B := rfl
    have hdigit := toNat_digit h
    rw [heq, hplus] at hdigit
    omega
  rw [leadDigit?, if_neg hplus, octalDigit?_digit h]

/-- The digits of an escape stand for the byte that it was made of. -/
theorem escaped?_digits (b : UInt8) :
    escaped? (0x30 + b / 64) (0x30 + b / 8 % 8) (0x30 + b % 8) = some b := by
  have hb : b.toNat < 256 := b.toNat_lt
  have hhigh : (b / 64).toNat = b.toNat / 64 := UInt8.toNat_div ..
  have hmid : (b / 8 % 8).toNat = b.toNat / 8 % 8 := by
    rw [UInt8.toNat_mod, UInt8.toNat_div]
    rfl
  have hlow : (b % 8).toNat = b.toNat % 8 := UInt8.toNat_mod ..
  rw [escaped?, leadDigit?_digit (by omega), octalDigit?_digit (by omega),
    octalDigit?_digit (by omega), hhigh, hmid, hlow]
  have hsum : (b.toNat / 64 * 8 + b.toNat / 8 % 8) * 8 + b.toNat % 8 = b.toNat := by omega
  simp only [hsum]
  rw [if_pos (by omega), UInt8.ofNat_toNat]

theorem unescape_octalEscape (b : UInt8) (rest : List UInt8) :
    unescape (octalEscape b ++ rest) = b :: unescape rest := by
  simp only [octalEscape, List.cons_append, List.nil_append]
  exact unescape_escaped (escaped?_digits b) rest

/-- **The bytes are read back,** whatever follows them. -/
theorem unescape_escape_append (bytes rest : List UInt8) :
    unescape (escape bytes ++ rest) = bytes ++ unescape rest := by
  induction bytes with
  | nil => rfl
  | cons b more ih =>
    have hcons : escape (b :: more) =
        (if b = 0x20 ∨ b = 0x09 ∨ b = 0x0A ∨ b = backslash then octalEscape b else [b]) ++
          escape more := rfl
    rw [hcons, List.append_assoc]
    split
    · rw [unescape_octalEscape, ih]
      rfl
    · rename_i hplain
      rw [List.singleton_append, unescape_cons_of_ne (by simp_all), ih]
      rfl

/-! ## Texts -/

/-- A character as it stands in a mount table. -/
def escapeChar (c : Char) : List Char :=
  if c = ' ' then "\\040".toList
  else if c = '\t' then "\\011".toList
  else if c = '\n' then "\\012".toList
  else if c = '\\' then "\\134".toList
  else [c]

/-- A text as it stands in a mount table. -/
def escapeText (text : List Char) : List Char := text.flatMap escapeChar

theorem escape_append (a b : List UInt8) : escape (a ++ b) = escape a ++ escape b := by
  simp [escape]

theorem escape_of_forall {bytes : List UInt8}
    (h : ∀ b ∈ bytes, ¬ (b = 0x20 ∨ b = 0x09 ∨ b = 0x0A ∨ b = backslash)) :
    escape bytes = bytes := by
  induction bytes with
  | nil => rfl
  | cons b rest ih =>
    have hcons : escape (b :: rest) =
        (if b = 0x20 ∨ b = 0x09 ∨ b = 0x0A ∨ b = backslash then octalEscape b else [b]) ++
          escape rest := rfl
    obtain ⟨hb, hrest⟩ := List.forall_mem_cons.mp h
    rw [hcons, if_neg hb, ih hrest]
    rfl

/-- A character is one of the four, or is written as it is. -/
theorem escapeChar_cases (c : Char) :
    (c = ' ' ∨ c = '\t' ∨ c = '\n' ∨ c = '\\') ∨
      (c ≠ ' ' ∧ c ≠ '\t' ∧ c ≠ '\n' ∧ c ≠ '\\') ∧ escapeChar c = [c] := by
  by_cases h : c = ' ' ∨ c = '\t' ∨ c = '\n' ∨ c = '\\'
  · exact .inl h
  · simp only [not_or] at h
    obtain ⟨hspace, htab, hfeed, hslash⟩ := h
    refine .inr ⟨⟨hspace, htab, hfeed, hslash⟩, ?_⟩
    rw [escapeChar, if_neg hspace, if_neg htab, if_neg hfeed, if_neg hslash]

/-- What becomes of a character is what becomes of its bytes. -/
theorem escape_encodeChar (c : Char) :
    escape (String.utf8EncodeChar c) = Text.Utf8.encode (escapeChar c) := by
  rcases escapeChar_cases c with (rfl | rfl | rfl | rfl) | ⟨⟨hspace, htab, hfeed, hslash⟩, hself⟩
  · decide
  · decide
  · decide
  · decide
  · rw [hself, Text.Utf8.encode_cons]
    refine (escape_of_forall fun b hb hspecial => ?_).trans (List.append_nil _).symm
    rcases hspecial with rfl | rfl | rfl | rfl
    · exact hspace (Text.Utf8.eq_ofNat_of_mem hb (by decide))
    · exact htab (Text.Utf8.eq_ofNat_of_mem hb (by decide))
    · exact hfeed (Text.Utf8.eq_ofNat_of_mem hb (by decide))
    · exact hslash (Text.Utf8.eq_ofNat_of_mem hb (by decide))

/-- **Escaping the bytes is escaping the characters.** -/
theorem escape_encode (text : List Char) :
    escape (Text.Utf8.encode text) = Text.Utf8.encode (escapeText text) := by
  induction text with
  | nil => rfl
  | cons c rest ih =>
    have hcons : escapeText (c :: rest) = escapeChar c ++ escapeText rest := rfl
    rw [Text.Utf8.encode_cons, escape_append, escape_encodeChar, ih, hcons, Text.Utf8.encode_append]

/-- The escapes of a text are read as the text, and reading goes on behind them. -/
theorem source_escapeText_append (text tail : List Char) :
    source (escapeText text ++ tail) = text ++ source tail := by
  rw [source, Text.Utf8.encode_append, ← escape_encode, unescape_escape_append,
    Text.Utf8.decodeLossy_encode_append, source]

theorem source_escapeText (text : List Char) : source (escapeText text) = text := by
  simpa [source, Text.Utf8.encode, unescape, Text.Utf8.decodeLossy, Text.Utf8.decode] using
    source_escapeText_append text []

/-- **Escaping is undone,** whatever the text is, and whatever stands behind it. A text that has in
it what looks like an escape is no exception: its backslash is written as an escape, too. -/
theorem source_reads_back (text : List Char) :
    source (escapeText text) = text ∧
      ∀ tail, source (escapeText text ++ tail) = text ++ source tail :=
  ⟨source_escapeText text, source_escapeText_append text⟩

example : source "a\\134040".toList = "a\\040".toList := by decide +kernel

end ZonedSet.MountTable
