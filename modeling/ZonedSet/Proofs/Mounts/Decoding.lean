/-
ZonedSet.Proofs.Mounts.Decoding — which escapes a reader of the mount table takes.

A field is read from left to right. A backslash that begins an escape is taken together with the
three characters behind it for one byte, and every other byte is copied. What an escape is, is left
open at first (`Decodes`), so that one and the same reading can be looked at for two kinds of
escapes.

The kernel writes three octal digits (`OctalDigits`). The reader takes those, and also two of them
behind a plus sign (`SignedDigits`), which the kernel never writes. No escape has a second
backslash in it, so wherever one occurs the reader stands before it at some time. The field is
therefore read as if there were octal digits only just where no plus sign and two digits stand
behind a backslash (`source_decodes`): each time they do, a backslash is lost that would have been
copied (`Decodes.count_backslash`).
-/
import Mathlib.Data.List.Infix
import Mathlib.Logic.ExistsUnique
import ZonedSet.Proofs.Mounts.Escapes

namespace ZonedSet.MountTable

/-! ## Kinds of escapes -/

/-- An octal digit. -/
def IsOctal (d : UInt8) : Prop := 0x30 ≤ d.toNat ∧ d.toNat ≤ 0x37

/-- Three octal digits, and the byte that they make. -/
def OctalDigits (x y z v : UInt8) : Prop :=
  IsOctal x ∧ IsOctal y ∧ IsOctal z ∧
    v.toNat = ((x.toNat - 0x30) * 8 + (y.toNat - 0x30)) * 8 + (z.toNat - 0x30)

/-- Two octal digits behind a plus sign, and the byte that they make. -/
def SignedDigits (x y z v : UInt8) : Prop :=
  x = 0x2B ∧ IsOctal y ∧ IsOctal z ∧ v.toNat = (y.toNat - 0x30) * 8 + (z.toNat - 0x30)

/-- What is taken for a byte when it stands behind a backslash. -/
def Taken (x y z v : UInt8) : Prop := OctalDigits x y z v ∨ SignedDigits x y z v

instance (d : UInt8) : Decidable (IsOctal d) := inferInstanceAs (Decidable (_ ∧ _))

instance (x y z v : UInt8) : Decidable (SignedDigits x y z v) :=
  inferInstanceAs (Decidable (_ ∧ _))

theorem IsOctal.ne_backslash {d : UInt8} (h : IsOctal d) : d ≠ backslash := by
  rintro rfl
  exact absurd h.2 (by decide)

theorem IsOctal.ne_plus {d : UInt8} (h : IsOctal d) : d ≠ 0x2B := by
  rintro rfl
  exact absurd h.1 (by decide)

theorem octalDigit?_eq_some_iff {d : UInt8} {n : Nat} :
    octalDigit? d = some n ↔ IsOctal d ∧ d.toNat - 0x30 = n := by
  have hrange : (0x30 ≤ d ∧ d ≤ 0x37) ↔ IsOctal d := by
    simp only [UInt8.le_iff_toNat_le, UInt8.toNat_ofNat]
    rfl
  unfold octalDigit?
  simp only [hrange, Option.ite_none_right_eq_some, Option.some.injEq]

theorem leadDigit?_eq_some_iff {d : UInt8} {n : Nat} :
    leadDigit? d = some n ↔ IsOctal d ∧ d.toNat - 0x30 = n ∨ d = 0x2B ∧ n = 0 := by
  unfold leadDigit?
  by_cases hd : d = 0x2B
  · have hnot : ¬ IsOctal d := fun h => h.ne_plus hd
    simp [hd, eq_comm, hd ▸ hnot]
  · rw [if_neg hd, octalDigit?_eq_some_iff]
    simp [hd]

theorem some_ofNat_eq_iff {n : Nat} {v : UInt8} :
    (if n ≤ 255 then some (UInt8.ofNat n) else none) = some v ↔ v.toNat = n := by
  have hv : v.toNat < 256 := v.toNat_lt
  rw [Option.ite_none_right_eq_some, Option.some.injEq]
  constructor
  · rintro ⟨hle, rfl⟩
    rw [UInt8.toNat_ofNat']
    omega
  · rintro rfl
    exact ⟨by omega, UInt8.ofNat_toNat⟩

theorem escaped?_eq_some {x y z v : UInt8} :
    escaped? x y z = some v ↔ ∃ a b c, leadDigit? x = some a ∧ octalDigit? y = some b ∧
      octalDigit? z = some c ∧ v.toNat = (a * 8 + b) * 8 + c := by
  unfold escaped?
  split
  · rename_i a b c ha hb hc
    rw [some_ofNat_eq_iff]
    simp [ha, hb, hc]
  · rename_i hnot
    refine iff_of_false nofun ?_
    rintro ⟨a, b, c, ha, hb, hc, -⟩
    exact hnot a b c ha hb hc

/-- **The kinds of escapes that the reader takes.** -/
theorem escaped?_eq_some_iff {x y z v : UInt8} : escaped? x y z = some v ↔ Taken x y z v := by
  simp only [escaped?_eq_some, leadDigit?_eq_some_iff, octalDigit?_eq_some_iff]
  constructor
  · rintro ⟨a, b, c, ⟨hx, rfl⟩ | ⟨hx, rfl⟩, ⟨hy, rfl⟩, ⟨hz, rfl⟩, hv⟩
    · exact .inl ⟨hx, hy, hz, hv⟩
    · exact .inr ⟨hx, hy, hz, by omega⟩
  · rintro (⟨hx, hy, hz, hv⟩ | ⟨hx, hy, hz, hv⟩)
    · exact ⟨_, _, _, .inl ⟨hx, rfl⟩, ⟨hy, rfl⟩, ⟨hz, rfl⟩, hv⟩
    · exact ⟨_, _, _, .inr ⟨hx, rfl⟩, ⟨hy, rfl⟩, ⟨hz, rfl⟩, by omega⟩

/-! ## Reading -/

variable {esc : UInt8 → UInt8 → UInt8 → UInt8 → Prop} {b : UInt8} {bytes rest out : List UInt8}

/-- The bytes begin with an escape. -/
def Begins (esc : UInt8 → UInt8 → UInt8 → UInt8 → Prop) (bytes : List UInt8) : Prop :=
  ∃ x y z v, esc x y z v ∧ [backslash, x, y, z] <+: bytes

/-- Somewhere in the bytes there is an escape. -/
def Occurs (esc : UInt8 → UInt8 → UInt8 → UInt8 → Prop) (bytes : List UInt8) : Prop :=
  ∃ x y z v, esc x y z v ∧ [backslash, x, y, z] <:+: bytes

/-- Reading from left to right: escapes are taken for their bytes, and what begins none is
copied. -/
inductive Decodes (esc : UInt8 → UInt8 → UInt8 → UInt8 → Prop) :
    List UInt8 → List UInt8 → Prop where
  | nil : Decodes esc [] []
  | escape {x y z v : UInt8} {rest out : List UInt8} (taken : esc x y z v)
      (more : Decodes esc rest out) : Decodes esc (backslash :: x :: y :: z :: rest) (v :: out)
  | copy {b : UInt8} {rest out : List UInt8} (plain : ¬ Begins esc (b :: rest))
      (more : Decodes esc rest out) : Decodes esc (b :: rest) (b :: out)

theorem Begins.of_esc {x y z v : UInt8} (h : esc x y z v) (rest : List UInt8) :
    Begins esc (backslash :: x :: y :: z :: rest) :=
  ⟨x, y, z, v, h, List.prefix_append [backslash, x, y, z] rest⟩

theorem Begins.exists_eq (h : Begins esc bytes) :
    ∃ x y z v rest, esc x y z v ∧ bytes = backslash :: x :: y :: z :: rest := by
  obtain ⟨x, y, z, v, hesc, rest, rfl⟩ := h
  exact ⟨x, y, z, v, rest, hesc, rfl⟩

theorem Begins.head_eq (h : Begins esc (b :: rest)) : b = backslash := by
  obtain ⟨x, y, z, v, -, hpre⟩ := h
  exact (List.cons_prefix_cons.mp hpre).1.symm

theorem occurs_cons_iff : Occurs esc (b :: rest) ↔ Begins esc (b :: rest) ∨ Occurs esc rest := by
  simp only [Occurs, Begins, List.infix_cons_iff, and_or_left, exists_or]

theorem not_occurs_nil : ¬ Occurs esc [] := by
  rintro ⟨x, y, z, v, -, h⟩
  cases List.infix_nil.mp h

theorem Occurs.append_left (h : Occurs esc rest) (front : List UInt8) :
    Occurs esc (front ++ rest) := by
  obtain ⟨x, y, z, v, hesc, h⟩ := h
  exact ⟨x, y, z, v, hesc, h.trans (List.suffix_append front rest).isInfix⟩

/-- An escape does not begin before a backslash. -/
theorem occurs_append_iff {front : List UInt8} (h : ∀ d ∈ front, d ≠ backslash) :
    Occurs esc (front ++ rest) ↔ Occurs esc rest := by
  induction front with
  | nil => rfl
  | cons d more ih =>
    obtain ⟨hd, hmore⟩ := List.forall_mem_cons.mp h
    rw [List.cons_append, occurs_cons_iff, ih hmore, or_iff_right fun hbegins => hd hbegins.head_eq]

theorem begins_taken_iff :
    Begins Taken bytes ↔ Begins OctalDigits bytes ∨ Begins SignedDigits bytes := by
  simp only [Begins, Taken, or_and_right, exists_or]

/-- Escapes that stand for one byte each are read in one way. -/
theorem Decodes.unique (single : ∀ x y z v w, esc x y z v → esc x y z w → v = w)
    {other : List UInt8} (h : Decodes esc bytes out) (h' : Decodes esc bytes other) :
    out = other := by
  induction h generalizing other with
  | nil =>
    cases h'
    rfl
  | @escape x y z v rest out taken more ih =>
    cases h' with
    | escape taken' more' => rw [single x y z v _ taken taken', ih more']
    | copy plain _ => exact absurd (Begins.of_esc taken rest) plain
  | @copy b rest out plain more ih =>
    cases h' with
    | escape taken _ => exact absurd (Begins.of_esc taken _) plain
    | copy _ more' => rw [ih more']

theorem exists_decodes (esc : UInt8 → UInt8 → UInt8 → UInt8 → Prop) (bytes : List UInt8) :
    ∃ out, Decodes esc bytes out := by
  induction hn : bytes.length using Nat.strong_induction_on generalizing bytes with
  | _ n ih =>
    cases bytes with
    | nil => exact ⟨[], .nil⟩
    | cons b rest =>
      by_cases hbegins : Begins esc (b :: rest)
      · obtain ⟨x, y, z, v, more, hesc, heq⟩ := hbegins.exists_eq
        rw [heq] at hn ⊢
        obtain ⟨out, hout⟩ := ih more.length (by simp at hn; omega) more rfl
        exact ⟨v :: out, .escape hesc hout⟩
      · obtain ⟨out, hout⟩ := ih rest.length (by simp at hn; omega) rest rfl
        exact ⟨b :: out, .copy hbegins hout⟩

/-- Where nothing is an escape, everything is copied. -/
theorem decodes_self (h : ¬ Occurs esc bytes) : Decodes esc bytes bytes := by
  induction bytes with
  | nil => exact .nil
  | cons b rest ih =>
    rw [occurs_cons_iff, not_or] at h
    exact .copy h.1 (ih h.2)

theorem octalDigits_unique (x y z v w : UInt8) (hv : OctalDigits x y z v)
    (hw : OctalDigits x y z w) : v = w :=
  UInt8.toNat_inj.mp (hv.2.2.2.trans hw.2.2.2.symm)

theorem taken_unique (x y z v w : UInt8) (hv : Taken x y z v) (hw : Taken x y z w) : v = w := by
  rw [← escaped?_eq_some_iff] at hv hw
  exact Option.some.inj (hv.symm.trans hw)

/-! ## What the reader makes of a field -/

theorem unescape_cons_of_not_begins (h : ¬ Begins Taken (b :: rest)) :
    unescape (b :: rest) = b :: unescape rest := by
  by_cases hb : b = backslash
  · rw [unescape.eq_def]
    simp only [if_pos hb]
    split
    · rename_i x y z more
      have hnone : escaped? x y z = none := by
        refine Option.eq_none_iff_forall_ne_some.mpr fun v hv => h ?_
        rw [hb]
        exact .of_esc (escaped?_eq_some_iff.mp hv) more
      rw [hnone]
    · rfl
  · exact unescape_cons_of_ne hb rest

/-- **The reader takes the escapes of both kinds.** -/
theorem decodes_unescape (bytes : List UInt8) : Decodes Taken bytes (unescape bytes) := by
  obtain ⟨out, hout⟩ := exists_decodes Taken bytes
  suffices heq : unescape bytes = out by rwa [heq]
  induction hout with
  | nil => rfl
  | escape taken more ih => rw [unescape_escaped (escaped?_eq_some_iff.mpr taken), ih]
  | copy plain more ih => rw [unescape_cons_of_not_begins plain, ih]

/-- Without an escape behind a plus sign, a reading of the octal escapes is one of all. -/
theorem Decodes.taken (h : Decodes OctalDigits bytes out) (hnot : ¬ Occurs SignedDigits bytes) :
    Decodes Taken bytes out := by
  induction h with
  | nil => exact .nil
  | @escape x y z v rest out taken more ih =>
    exact .escape (.inl taken) (ih fun hoccurs => hnot (hoccurs.append_left [_, _, _, _]))
  | @copy b rest out plain more ih =>
    rw [occurs_cons_iff, not_or] at hnot
    exact .copy (by rw [begins_taken_iff, not_or]; exact ⟨plain, hnot.1⟩) (ih hnot.2)

theorem SignedDigits.ne_backslash {x y z v : UInt8} (h : SignedDigits x y z v) :
    v ≠ backslash := by
  obtain ⟨-, hy, hz, hv⟩ := h
  have hy := hy.2
  have hz := hz.2
  rintro rfl
  have hbackslash : backslash.toNat = 0x5C := rfl
  omega

/-- The byte that an escape behind a plus sign stands for is no backslash, and neither are the
characters of the escape, when they are read without the backslash before them. -/
theorem count_unescape_signed {x y z v : UInt8} (h : SignedDigits x y z v) (rest : List UInt8) :
    (unescape (backslash :: x :: y :: z :: rest)).count backslash =
      (unescape (x :: y :: z :: rest)).count backslash := by
  have hx : x ≠ backslash := by
    rw [h.1]
    decide
  have hy := h.2.1.ne_backslash
  have hz := h.2.2.1.ne_backslash
  rw [unescape_escaped (escaped?_eq_some_iff.mpr (.inr h)), unescape_cons_of_ne hx,
    unescape_cons_of_ne hy, unescape_cons_of_ne hz, List.count_cons_of_ne h.ne_backslash,
    List.count_cons_of_ne hx, List.count_cons_of_ne hy, List.count_cons_of_ne hz]

/-- No escape behind a plus sign begins where three octal digits stand behind a backslash, nor
inside of those. -/
theorem occurs_octalDigits_iff {x y z v : UInt8} (h : OctalDigits x y z v) :
    Occurs SignedDigits (backslash :: x :: y :: z :: rest) ↔ Occurs SignedDigits rest := by
  have hbegins : ¬ Begins SignedDigits (backslash :: x :: y :: z :: rest) := by
    intro hbegins
    obtain ⟨x', y', z', w, more, hsigned, heq⟩ := hbegins.exists_eq
    cases heq
    exact h.1.ne_plus hsigned.1
  have hinside : ∀ d ∈ [x, y, z], d ≠ backslash := by
    simp [h.1.ne_backslash, h.2.1.ne_backslash, h.2.2.1.ne_backslash]
  rw [occurs_cons_iff, or_iff_right hbegins]
  exact occurs_append_iff hinside

/-- **Every escape behind a plus sign costs a backslash.** It is copied in a reading of octal
escapes only. -/
theorem Decodes.count_backslash (h : Decodes OctalDigits bytes out) :
    (unescape bytes).count backslash ≤ out.count backslash ∧
      (Occurs SignedDigits bytes →
        (unescape bytes).count backslash < out.count backslash) := by
  induction h with
  | nil => exact ⟨Nat.le_refl _, fun h => absurd h not_occurs_nil⟩
  | @escape x y z v rest out taken more ih =>
    rw [unescape_escaped (escaped?_eq_some_iff.mpr (.inl taken)), occurs_octalDigits_iff taken,
      List.count_cons, List.count_cons]
    exact ⟨Nat.add_le_add_right ih.1 _, fun h => Nat.add_lt_add_right (ih.2 h) _⟩
  | @copy b rest out plain more ih =>
    by_cases hbegins : Begins SignedDigits (b :: rest)
    · obtain ⟨x, y, z, v, after, hsigned, heq⟩ := hbegins.exists_eq
      cases heq
      -- both readings go on behind the escape, and one of them has copied it
      rw [count_unescape_signed hsigned, List.count_cons_self]
      exact ⟨Nat.le_succ_of_le ih.1, fun _ => Nat.lt_succ_of_le ih.1⟩
    · have hcopied : ¬ Begins Taken (b :: rest) := by
        rw [begins_taken_iff, not_or]
        exact ⟨plain, hbegins⟩
      rw [unescape_cons_of_not_begins hcopied, occurs_cons_iff, or_iff_right hbegins,
        List.count_cons, List.count_cons]
      exact ⟨Nat.add_le_add_right ih.1 _, fun h => Nat.add_lt_add_right (ih.2 h) _⟩

/-- What a field is read as when its escapes are of some kind. -/
def ReadsAs (esc : UInt8 → UInt8 → UInt8 → UInt8 → Prop) (field text : List Char) : Prop :=
  ∃ out, Decodes esc (Text.Utf8.encode field) out ∧ Text.Utf8.decodeLossy out = text

theorem existsUnique_readsAs (single : ∀ x y z v w, esc x y z v → esc x y z w → v = w)
    (field : List Char) : ∃! text, ReadsAs esc field text := by
  obtain ⟨out, hout⟩ := exists_decodes esc (Text.Utf8.encode field)
  refine ⟨Text.Utf8.decodeLossy out, ⟨out, hout, rfl⟩, ?_⟩
  rintro text ⟨other, hother, rfl⟩
  rw [hother.unique single hout]

theorem readsAs_source (field : List Char) : ReadsAs Taken field (source field) :=
  ⟨_, decodes_unescape _, rfl⟩

/-- **When the reader reads octal escapes and nothing else.** -/
theorem readsAs_octalDigits_iff (field : List Char) :
    ReadsAs OctalDigits field (source field) ↔
      ¬ Occurs SignedDigits (Text.Utf8.encode field) := by
  constructor
  · rintro ⟨out, hout, heq⟩ hoccurs
    have hlt := hout.count_backslash.2 hoccurs
    have hcount : ∀ bytes, (Text.Utf8.decodeLossy bytes).count '\\' = bytes.count backslash :=
      Text.Utf8.count_decodeLossy (b := backslash) (by decide)
    rw [← hcount, ← hcount, heq] at hlt
    exact Nat.lt_irrefl _ hlt
  · intro hnot
    obtain ⟨out, hout⟩ := exists_decodes OctalDigits (Text.Utf8.encode field)
    have heq := (hout.taken hnot).unique taken_unique (decodes_unescape _)
    exact ⟨out, hout, by rw [heq, source]⟩

/-- A field without escapes is read as it is. -/
theorem readsAs_self {field : List Char} (h : ¬ Occurs esc (Text.Utf8.encode field)) :
    ReadsAs esc field field :=
  ⟨_, decodes_self h, Text.Utf8.decodeLossy_encode field⟩

/-- **What the reader makes of a field.** It takes the escapes of both kinds, and copies the rest.
The field is read for its octal escapes alone if and only if no plus sign and two octal digits
stand behind a backslash anywhere; and this is also when a field without octal escapes is read as
it is. -/
theorem source_decodes (field : List Char) :
    (∀ text, ReadsAs Taken field text ↔ source field = text) ∧
    (∃! text, ReadsAs OctalDigits field text) ∧
    (ReadsAs OctalDigits field (source field) ↔
      ¬ Occurs SignedDigits (Text.Utf8.encode field)) ∧
    (¬ Occurs OctalDigits (Text.Utf8.encode field) →
      (source field = field ↔ ¬ Occurs SignedDigits (Text.Utf8.encode field))) := by
  refine ⟨fun text => ?_, existsUnique_readsAs octalDigits_unique field,
    readsAs_octalDigits_iff field, fun hnot => ?_⟩
  · constructor
    · exact (existsUnique_readsAs taken_unique field).unique (readsAs_source field)
    · rintro rfl
      exact readsAs_source field
  · rw [← readsAs_octalDigits_iff]
    constructor
    · intro heq
      rw [heq]
      exact readsAs_self hnot
    · intro h
      exact (existsUnique_readsAs octalDigits_unique field).unique h (readsAs_self hnot)

/-- A field of four characters with no octal escape in it. It is not read as it is. -/
theorem signed_escape_decoded :
    ¬ Occurs OctalDigits (Text.Utf8.encode "\\+40".toList) ∧
      source "\\+40".toList = " ".toList ∧
      ¬ ReadsAs OctalDigits "\\+40".toList (source "\\+40".toList) := by
  have hbytes : Text.Utf8.encode "\\+40".toList = [backslash, 0x2B, 0x34, 0x30] := by decide
  have hinside : ¬ Occurs OctalDigits ([0x2B, 0x34, 0x30] ++ []) :=
    fun h => not_occurs_nil ((occurs_append_iff (by simp [backslash])).mp h)
  refine ⟨?_, by decide +kernel, ?_⟩
  · rw [hbytes, occurs_cons_iff, not_or]
    refine ⟨fun hbegins => ?_, hinside⟩
    obtain ⟨x, y, z, v, rest, hoctal, heq⟩ := hbegins.exists_eq
    cases heq
    exact hoctal.1.ne_plus rfl
  · rw [readsAs_octalDigits_iff, hbytes, not_not]
    exact ⟨0x2B, 0x34, 0x30, 0x20, by decide, List.infix_refl _⟩

end ZonedSet.MountTable
