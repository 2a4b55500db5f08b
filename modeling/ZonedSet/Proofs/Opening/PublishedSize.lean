/-
ZonedSet.Proofs.Opening.PublishedSize — which zone size is read out of what is published.

The zone size of a disk is published as a text, and only its first word counts. That word is taken
for the number that it writes, if this is a word of 64 bits (`zoneSectors_published`). All else is
one and the same kind of error, and what it gives for a reason tells three causes apart: there is no
word, the word is too large, or it is no number. A word that is both too large and no number goes
by what comes first in it.
-/
import ZonedSet.Proofs.Opening.Assembling
import ZonedSet.Proofs.Text.Blank
import ZonedSet.Proofs.Text.Decimal
import ZonedSet.Storage.Edit
import ZonedSet.Sysfs

namespace ZonedSet.Sysfs

open Text (FirstRun)
open Text.Decimal (IsNumeral Overflows)

/-- Where the zone size of a disk is published. -/
def sizeAttribute (root name : String) : String :=
  Path.join (queueDirectory root name) "chunk_sectors"

/-- What is wrong with a word that is no zone size. -/
def sizeReason (word : List Char) (fault : Text.Decimal.Fault) : String :=
  "Invalid value " ++ String.ofList (Text.Quoted.quote word) ++ ": " ++ fault.message

variable {s : Storage} {root name attr : String} {text word : List Char} {n : Nat}
  {fault : Text.Decimal.Fault}

/-! ## One word -/

theorem sizeReason_eq : sizeReason word fault =
    "Invalid value " ++ String.ofList (Text.Quoted.quote word) ++ (": " ++ fault.message) :=
  String.append_assoc

theorem sizeReason_inj_iff {other : Text.Decimal.Fault} :
    sizeReason word fault = sizeReason word other ↔ fault = other := by
  rw [sizeReason_eq, sizeReason_eq, String.append_right_inj]
  cases fault <;> cases other <;> decide

/-- Whatever is wrong with a word, it is not that there is none. -/
theorem sizeReason_ne : sizeReason word fault ≠ "Invalid file format" := by
  intro h
  have hchar : (sizeReason word fault).toList[8]? = some 'v' := by
    rw [sizeReason_eq, String.append_assoc, String.toList_append,
      List.getElem?_append_left (by decide)]
    decide
  rw [h] at hchar
  exact absurd hchar (by decide)

theorem parseZoneSectors_eq_ok_iff :
    parseZoneSectors attr word = .ok n ↔
      IsNumeral word ∧ Text.Decimal.value (Text.Decimal.unsigned word) = n ∧ n < Word.limit := by
  rw [← Text.Decimal.parse_eq_ok_iff, parseZoneSectors]
  cases Text.Decimal.parse word <;> simp

theorem parseZoneSectors_eq_error_iff :
    parseZoneSectors attr word = .error (.attributeInvalid attr (sizeReason word fault)) ↔
      Text.Decimal.parse word = .error fault := by
  rw [parseZoneSectors]
  cases Text.Decimal.parse word with
  | ok n => simp
  | error other =>
    rw [Except.error.injEq, Except.error.injEq, Error.attributeInvalid.injEq]
    exact (and_iff_right rfl).trans sizeReason_inj_iff

theorem exists_parseZoneSectors (attr : String) (word : List Char) :
    (∃ n, parseZoneSectors attr word = .ok n) ∨ ∃ fault,
      parseZoneSectors attr word = .error (.attributeInvalid attr (sizeReason word fault)) := by
  simp only [parseZoneSectors_eq_error_iff]
  rw [parseZoneSectors]
  cases h : Text.Decimal.parse word with
  | ok n => exact .inl ⟨n, rfl⟩
  | error fault => exact .inr ⟨fault, rfl⟩

/-! ## The attribute -/

section

variable (readable : s.readText (sizeAttribute root name) = .ok text)
include readable

theorem zoneSectors_of_blank (h : ¬ ∃ word, FirstRun text word) :
    zoneSectors s root name =
      .error (.attributeInvalid (sizeAttribute root name) "Invalid file format") := by
  have hread : readWord? s (sizeAttribute root name) =
      .error (.attributeInvalid (sizeAttribute root name) "Invalid file format") := by
    simp only [readWord?, readable, Text.firstWord?_eq_none_iff.mpr h]
  exact congrArg (· >>= _) hread

theorem zoneSectors_of_firstRun (h : FirstRun text word) :
    zoneSectors s root name = parseZoneSectors (sizeAttribute root name) word := by
  have hread : readWord? s (sizeAttribute root name) = .ok (some word) := by
    simp only [readWord?, readable, Text.firstWord?_of_firstRun h]
  exact congrArg (· >>= _) hread

theorem zoneSectors_eq_ok_iff :
    zoneSectors s root name = .ok n ↔
      ∃ word, FirstRun text word ∧ IsNumeral word ∧
        Text.Decimal.value (Text.Decimal.unsigned word) = n ∧ n < Word.limit := by
  constructor
  · intro hok
    by_cases h : ∃ word, FirstRun text word
    · obtain ⟨word, hword⟩ := h
      rw [zoneSectors_of_firstRun readable hword] at hok
      exact ⟨word, hword, parseZoneSectors_eq_ok_iff.mp hok⟩
    · rw [zoneSectors_of_blank readable h] at hok
      cases hok
  · rintro ⟨word, hword, hvalue⟩
    exact (zoneSectors_of_firstRun readable hword).trans (parseZoneSectors_eq_ok_iff.mpr hvalue)

theorem zoneSectors_eq_format_iff :
    zoneSectors s root name =
        .error (.attributeInvalid (sizeAttribute root name) "Invalid file format") ↔
      ¬ ∃ word, FirstRun text word := by
  refine ⟨?_, zoneSectors_of_blank readable⟩
  rintro hformat ⟨word, hword⟩
  rw [zoneSectors_of_firstRun readable hword] at hformat
  rcases exists_parseZoneSectors (sizeAttribute root name) word with ⟨n, hok⟩ | ⟨_, hfault⟩
  · rw [hok] at hformat
    cases hformat
  · rw [hfault, Except.error.injEq, Error.attributeInvalid.injEq] at hformat
    exact sizeReason_ne hformat.2

theorem exists_zoneSectors :
    (∃ n, zoneSectors s root name = .ok n) ∨ ∃ reason,
      zoneSectors s root name = .error (.attributeInvalid (sizeAttribute root name) reason) := by
  by_cases h : ∃ word, FirstRun text word
  · obtain ⟨word, hword⟩ := h
    rw [zoneSectors_of_firstRun readable hword]
    exact (exists_parseZoneSectors _ word).imp_right fun ⟨_, hfault⟩ => ⟨_, hfault⟩
  · exact .inr ⟨_, zoneSectors_of_blank readable h⟩

theorem zoneSectors_eq_tooLarge_iff (h : FirstRun text word) :
    zoneSectors s root name =
        .error (.attributeInvalid (sizeAttribute root name) (sizeReason word .tooLarge)) ↔
      Overflows word := by
  rw [zoneSectors_of_firstRun readable h, parseZoneSectors_eq_error_iff,
    Text.Decimal.parse_eq_tooLarge_iff]

/-- **The zone size that is read from a text**: the number that the first word writes, if it writes
one and that is a word of 64 bits. Otherwise the attribute is invalid, and the reason tells whether
there is no word and whether it is too large. -/
theorem zoneSectors_published :
    (∀ n, zoneSectors s root name = .ok n ↔
      ∃ word, FirstRun text word ∧ IsNumeral word ∧
        Text.Decimal.value (Text.Decimal.unsigned word) = n ∧ n < Word.limit) ∧
    ((∃ n, zoneSectors s root name = .ok n) ∨ ∃ reason,
      zoneSectors s root name = .error (.attributeInvalid (sizeAttribute root name) reason)) ∧
    (zoneSectors s root name =
        .error (.attributeInvalid (sizeAttribute root name) "Invalid file format") ↔
      ¬ ∃ word, FirstRun text word) ∧
    ∀ word, FirstRun text word →
      (zoneSectors s root name =
          .error (.attributeInvalid (sizeAttribute root name) (sizeReason word .tooLarge)) ↔
        Overflows word) :=
  ⟨fun _ => zoneSectors_eq_ok_iff readable, exists_zoneSectors readable,
    zoneSectors_eq_format_iff readable, fun _ => zoneSectors_eq_tooLarge_iff readable⟩

end

/-! ## The largest zone size there can be -/

/-- A disk whose zone size is published with a sign, and with another word behind it. -/
def signedSize : Storage :=
  Storage.bare.putFile "/sys/block/z/queue/chunk_sectors"
    (.ofBytes "\n +018446744073709551615 8".toUTF8.data)

theorem zoneSectors_published_signedSize :
    signedSize.readText (sizeAttribute "/sys" "z") =
        .ok "\n +018446744073709551615 8".toList ∧
      zoneSectors signedSize "/sys" "z" = .ok 18446744073709551615 := by
  have readable : signedSize.readText (sizeAttribute "/sys" "z") =
      .ok "\n +018446744073709551615 8".toList := eq_ok_of_toOption (by decide +kernel)
  have hfirst : FirstRun "\n +018446744073709551615 8".toList "+018446744073709551615".toList :=
    Text.firstWord?_eq_some_iff.mp (by decide)
  exact ⟨readable, ((zoneSectors_published readable).1 _).mpr
    ⟨_, hfirst, by decide, by decide, by decide⟩⟩

end ZonedSet.Sysfs
