/-
ZonedSet.Proofs.Signature.Sampling — a sample shows what the whole device would.

The tests for signatures read through a window, so nothing but the bytes at the places that they
look at can make a difference (`Signature.scan_congr`). `Signature.Examined` lists those places.
Most of them are the same for all devices and lie near the front; the others are placed by the
size, and are aligned. The alignment is what keeps them off the seam between the head and the tail:
an aligned place is either within the head, or begins in what is left of the device, and then it is
near enough to the end to be within the tail (`Sample.isSampled_of_examined`).

The probe of a stored device samples it, so its verdict is that of the whole device, too, or there
is none (`Probe.sampling_keeps_verdict`).
-/
import Mathlib.Data.List.Find
import ZonedSet.Probe
import ZonedSet.Proofs.Opening.Device

namespace ZonedSet

namespace Signature

/-! ## Places -/

/-- Where the signatures with a fixed place end. The last one is that of btrfs. -/
def frontSize : Nat := 65608

/-- The tests look at these bytes of a device of this size. -/
inductive Examined (size : Nat) : (offset length : Nat) → Prop where
  | front {offset length : Nat} (h : offset + length ≤ frontSize) : Examined size offset length
  | raidTail {offset : Nat} (h : raidTailOffset? size = some offset) : Examined size offset 4
  | raidOld {offset : Nat} (h : raidOldOffset? size = some offset) : Examined size offset 4
  | zfs {label offset : Nat} (hlabel : label ∈ zfsLabels size) (hslot : offset ∈ zfsSlots label) :
      Examined size offset 8
  | gptBackup (h : 1024 ≤ size) : Examined size ((size / 512 - 1) * 512) 8

/-- The windows show devices of one size, and the same bytes wherever the tests look. -/
structure Alike (v w : Window) : Prop where
  size_eq : v.size = w.size
  slice?_eq : ∀ offset length, Examined v.size offset length →
    v.slice? offset length = w.slice? offset length

/-! ## Only the places matter -/

theorem any_range_congr {n : Nat} {p q : Nat → Bool} (h : ∀ i < n, p i = q i) :
    (List.range n).any p = (List.range n).any q := by
  rw [Bool.eq_iff_iff, List.any_eq_true, List.any_eq_true]
  refine exists_congr fun i => and_congr_right fun hi => ?_
  rw [h i (List.mem_range.mp hi)]

namespace Alike

variable {v w : Window} (alike : Alike v w)
include alike

theorem front {offset length : Nat} (h : offset + length ≤ frontSize) :
    v.slice? offset length = w.slice? offset length :=
  alike.slice?_eq offset length (.front h)

theorem has_eq {offset : Nat} {bytes : List UInt8}
    (h : Examined v.size offset bytes.length) : v.has offset bytes = w.has offset bytes := by
  rw [Window.has, Window.has, alike.slice?_eq offset bytes.length h]

theorem has_front {offset : Nat} {bytes : List UInt8} (h : offset + bytes.length ≤ frontSize) :
    v.has offset bytes = w.has offset bytes :=
  alike.has_eq (.front h)

theorem hasLittle_eq {offset width n : Nat} (h : Examined v.size offset width) :
    v.hasLittle offset width n = w.hasLittle offset width n :=
  alike.has_eq (by rwa [LittleEndian.length_encode])

theorem hasEither_eq {offset width n : Nat} (h : Examined v.size offset width) :
    v.hasEither offset width n = w.hasEither offset width n := by
  rw [Window.hasEither, Window.hasEither, alike.hasLittle_eq h, Window.hasBig, Window.hasBig,
    alike.has_eq (by rwa [List.length_reverse, LittleEndian.length_encode])]

theorem isRaid_eq : isRaid v = isRaid w := by
  have htail : (raidTailOffset? v.size).any (v.hasLittle · 4 raidMagic) =
      (raidTailOffset? w.size).any (w.hasLittle · 4 raidMagic) := by
    rw [← alike.size_eq]
    cases h : raidTailOffset? v.size with
    | none => rfl
    | some offset => exact alike.hasLittle_eq (.raidTail h)
  have hold : (raidOldOffset? v.size).any (v.hasEither · 4 raidMagic) =
      (raidOldOffset? w.size).any (w.hasEither · 4 raidMagic) := by
    rw [← alike.size_eq]
    cases h : raidOldOffset? v.size with
    | none => rfl
    | some offset => exact alike.hasEither_eq (.raidOld h)
  rw [isRaid, isRaid, htail, hold, alike.hasLittle_eq (.front (by decide)),
    alike.hasLittle_eq (.front (by decide))]

theorem find?_eq {magics : List Magic}
    (h : ∀ m ∈ magics, m.offset + m.bytes.length ≤ frontSize) :
    find? v magics = find? w magics := by
  rw [find?, find?, List.find?_congr fun m hm => alike.has_front (h m hm)]

theorem isZfs_eq : isZfs v = isZfs w := by
  have hcount : ((zfsLabels v.size).flatMap zfsSlots).countP (v.hasEither · 8 zfsMagic) =
      ((zfsLabels v.size).flatMap zfsSlots).countP (w.hasEither · 8 zfsMagic) := by
    refine List.countP_congr fun offset hoffset => ?_
    obtain ⟨label, hlabel, hslot⟩ := List.mem_flatMap.mp hoffset
    rw [alike.hasEither_eq (.zfs hlabel hslot)]
  rw [isZfs, isZfs, ← alike.size_eq, hcount]

theorem isLvm_eq : isLvm v = isLvm w := by
  have hlength : (ascii "LABELONE").length = 8 ∧ (ascii "LVM2 001").length = 8 := by decide
  refine any_range_congr fun i hi => ?_
  rw [alike.has_front (by rw [hlength.1, frontSize]; omega),
    alike.has_front (by rw [hlength.2, frontSize]; omega)]

theorem ext?_eq : ext? v = ext? w := by
  rw [ext?, ext?, alike.front (by decide)]

theorem hasBootMark_eq : hasBootMark v = hasBootMark w := alike.has_front (by decide)

theorem isFat_eq : isFat v = isFat w := by
  rw [isFat, isFat, alike.hasBootMark_eq, alike.has_front (by decide),
    alike.has_front (by decide), alike.has_front (by decide)]

theorem isGpt_eq : isGpt v = isGpt w := by
  have hbackup :
      (decide (1024 ≤ v.size) && v.has ((v.size / 512 - 1) * 512) (ascii "EFI PART")) =
        (decide (1024 ≤ v.size) && w.has ((v.size / 512 - 1) * 512) (ascii "EFI PART")) := by
    by_cases h : 1024 ≤ v.size
    · rw [alike.has_eq (show Examined v.size _ (ascii "EFI PART").length from .gptBackup h)]
    · simp [h]
  rw [isGpt, isGpt, ← alike.size_eq, hbackup, alike.has_front (by decide)]

theorem isDos_eq : isDos v = isDos w := by
  have htypes : ((List.range 4).any fun i => (v.slice? (446 + 16 * i + 4) 1).any (· != [0])) =
      (List.range 4).any fun i => (w.slice? (446 + 16 * i + 4) 1).any (· != [0]) := by
    refine any_range_congr fun i hi => ?_
    rw [alike.front (by rw [frontSize]; omega)]
  rw [isDos, isDos, alike.hasBootMark_eq, htypes]

/-- **Only the bytes that are examined make a difference.** -/
theorem scan_congr : scan v = scan w := by
  have hvolume : find? v volumeMagics = find? w volumeMagics := alike.find?_eq (by decide)
  have hfilesystem : find? v filesystemMagics = find? w filesystemMagics :=
    alike.find?_eq (by decide)
  rw [scan, scan, alike.isRaid_eq, hvolume, alike.isZfs_eq, alike.ext?_eq, hfilesystem,
    alike.isFat_eq, alike.isLvm_eq, alike.isGpt_eq, alike.isDos_eq]

end Alike

end Signature

/-! ## The sample holds the places -/

namespace Sample

open Signature

variable {size offset length : Nat}

theorem isSampled_iff :
    isSampled size offset length = true ↔
      offset + length ≤ headStop size ∨ tailStart size ≤ offset ∧ offset + length ≤ size := by
  simp [isSampled]

/-- Bytes of the device that lie in the first 512 KiB are in the head. -/
theorem isSampled_head (h : offset + length ≤ headSize) (hsize : offset + length ≤ size) :
    isSampled size offset length = true := by
  rw [isSampled_iff, headStop]
  omega

/-- Bytes behind the first 512 KiB, and less than 1 MiB before the end, are in the tail. -/
theorem isSampled_tail (h : headSize ≤ offset) (hnear : size ≤ offset + tailSize)
    (hsize : offset + length ≤ size) : isSampled size offset length = true := by
  rw [isSampled_iff, tailStart, headStop]
  omega

/-- Bytes near the end that do not lie across the seam are sampled. -/
theorem isSampled_of_near (hseam : offset + length ≤ headSize ∨ headSize ≤ offset)
    (hnear : size ≤ offset + tailSize) (hsize : offset + length ≤ size) :
    isSampled size offset length = true := by
  rcases hseam with hhead | htail
  · exact isSampled_head hhead hsize
  · exact isSampled_tail htail hnear hsize

/-- The labels begin at multiples of their size: at the first two, or near the end. -/
theorem exists_of_mem_zfsLabels {label : Nat} (h : label ∈ zfsLabels size) :
    ∃ k, label = k * zfsLabelSize ∧ (k < 2 ∨ size < label + 3 * zfsLabelSize) := by
  rw [zfsLabels, List.mem_eraseDups, List.mem_append] at h
  have hlast := Nat.lt_div_mul_add (a := size) (b := zfsLabelSize) (by decide)
  generalize hk : size / zfsLabelSize = k at h hlast
  rw [zfsLabelSize] at *
  rcases h with hfront | hback
  · obtain rfl | rfl : label = 0 ∨ label = 262144 := by simpa using hfront
    · exact ⟨0, by omega, .inl (by omega)⟩
    · exact ⟨1, by omega, .inl (by omega)⟩
  · split at hback
    · rename_i hroom
      rcases List.mem_cons.mp hback with hlabel | hlast
      · exact ⟨k - 2, by omega, .inr (by omega)⟩
      · have hlabel := List.mem_singleton.mp hlast
        exact ⟨k - 1, by omega, .inr (by omega)⟩
    · cases hback

/-- **Whatever the tests look at is sampled,** unless the device ends before. -/
theorem isSampled_of_examined (h : Examined size offset length) (hsize : offset + length ≤ size) :
    isSampled size offset length = true := by
  cases h with
  | front h =>
    rw [frontSize] at h
    exact isSampled_head (by rw [headSize]; omega) hsize
  | raidTail h =>
    obtain ⟨-, rfl⟩ : 16 ≤ size / 512 ∧ (size / 512 - 16) / 8 * 8 * 512 = offset := by
      simpa [raidTailOffset?] using h
    exact isSampled_of_near (by rw [headSize]; omega) (by rw [tailSize]; omega) hsize
  | raidOld h =>
    obtain ⟨-, rfl⟩ : 65536 ≤ size / 65536 * 65536 ∧ size / 65536 * 65536 - 65536 = offset := by
      simpa [raidOldOffset?] using h
    exact isSampled_of_near (by rw [headSize]; omega) (by rw [tailSize]; omega) hsize
  | zfs hlabel hslot =>
    obtain ⟨k, rfl, hplace⟩ := exists_of_mem_zfsLabels hlabel
    obtain ⟨i, hi, rfl⟩ : ∃ i < 128, k * zfsLabelSize + 131072 + i * 1024 = offset := by
      simpa [zfsSlots] using hslot
    rw [zfsLabelSize] at *
    rcases hplace with hfront | hback
    · exact isSampled_head (by rw [headSize]; omega) hsize
    · exact isSampled_of_near (by rw [headSize]; omega) (by rw [tailSize]; omega) hsize
  | gptBackup h =>
    exact isSampled_of_near (by rw [headSize]; omega) (by rw [tailSize]; omega) hsize

/-- A sample is like the whole image to the tests. -/
theorem alike_window (image : Image) : Alike (window image) image.window where
  size_eq := rfl
  slice?_eq := by
    intro offset length h
    show (if isSampled image.size offset length then some (image.bytesFrom offset length)
        else none) = image.slice? offset length
    rw [Image.slice?]
    by_cases hsize : offset + length ≤ image.size
    · have hin : isSampled image.size offset length = true := isSampled_of_examined h hsize
      rw [if_pos hin, if_pos hsize]
    · have hout : ¬isSampled image.size offset length = true := by
        rw [isSampled_iff, headStop]
        omega
      rw [if_neg hout, if_neg hsize]

/-- **A sample shows what the whole image shows.** -/
theorem scan_eq (image : Image) : scan image = Signature.scan image.window :=
  (alike_window image).scan_congr

end Sample

/-! ## Probing a stored device -/

namespace Storage

/-- A fault lets no byte of the open file be read. -/
def Unreadable (s : Storage) (h : Handle) : Prop :=
  (∃ errno, s.faultOn .read h.path = some (.fail errno)) ∨ s.faultOn .read h.path = some (.cut 0)

/-- Bytes that the file has are read unless a fault lets none be read. -/
theorem readable_eq_ok_iff {s : Storage} {h : Handle} {image : Image} {offset length : Nat}
    (himage : s.imageOf h = .ok image) (hsize : offset + length ≤ image.size) :
    s.readable h offset length = .ok () ↔ length = 0 ∨ ¬s.Unreadable h := by
  unfold readable Unreadable
  by_cases hlength : length = 0
  · simp [hlength]
  · rw [if_neg hlength]
    split
    · rename_i errno hfault
      simp [hlength, hfault]
    · rename_i hfault
      simp [hlength, hfault]
    · rename_i hfail hcut
      rw [himage]
      dsimp only
      rw [if_pos hsize]
      refine iff_of_true rfl (.inr ?_)
      rintro (⟨errno, hfault⟩ | hfault)
      · exact hfail errno hfault
      · exact hcut hfault

end Storage

namespace Probe

variable {s : Storage} {path : String}

/-- The head and the tail can be read where any byte can. -/
theorem sampled_eq_ok_iff {h : Handle} {image : Image} :
    sampled s h = .ok image ↔
      s.imageOf h = .ok image ∧ (image.size = 0 ∨ ¬s.Unreadable h) := by
  unfold sampled
  simp only [bind_eq_ok_iff]
  constructor
  · rintro ⟨all, hall, _, hhead, _, htail, hsame⟩
    obtain rfl : all = image := Except.ok.inj hsame
    refine ⟨hall, ?_⟩
    rw [s.readable_eq_ok_iff hall (by rw [Sample.headStop]; omega)] at hhead
    refine hhead.imp_left fun hempty => ?_
    rw [Sample.headStop, Sample.headSize] at hempty
    omega
  · rintro ⟨hall, hread⟩
    refine ⟨image, hall, (), ?_, (), ?_, rfl⟩
    · rw [s.readable_eq_ok_iff hall (by rw [Sample.headStop]; omega)]
      exact hread.imp_left fun hempty => by rw [Sample.headStop, hempty, Nat.zero_min]
    · rw [s.readable_eq_ok_iff hall (by rw [Sample.tailStart, Sample.headStop]; omega)]
      exact hread.imp_left fun hempty => by rw [hempty, Nat.zero_sub]

/-- **When a device can be probed, and to what verdict:** it can be opened and read, and the verdict
is that of the whole device. -/
theorem content?_eq_ok_iff {found : Option Content} :
    content? s path = .ok found ↔
      ∃ h image, s.openFile .openRead path = .ok h ∧ s.imageOf h = .ok image ∧
        (image.size = 0 ∨ ¬s.Unreadable h) ∧ found = Signature.scan image.window := by
  unfold content?
  constructor
  · intro h
    split at h
    · cases h
    rename_i hd hopen
    split at h
    · cases h
    rename_i image hsampled
    cases h
    obtain ⟨himage, hread⟩ := sampled_eq_ok_iff.mp hsampled
    exact ⟨hd, image, hopen, himage, hread, Sample.scan_eq image⟩
  · rintro ⟨hd, image, hopen, himage, hread, rfl⟩
    rw [hopen]
    dsimp only
    rw [sampled_eq_ok_iff.mpr ⟨himage, hread⟩, ← Sample.scan_eq]

theorem exists_probeFailed {e : Error} (h : content? s path = .error e) :
    ∃ errno, e = .probeFailed path errno := by
  unfold content? at h
  split at h
  · cases h
    exact ⟨_, rfl⟩
  · split at h
    · cases h
      exact ⟨_, rfl⟩
    · cases h

/-- **Sampling keeps the verdict.** What a sample of an image shows is what all of it shows. So a
stored device that can be probed gets the verdict of all its bytes, whatever the faults, and it can
be where it can be opened and no fault keeps it from being read; in all other cases the failure
of the probe is the error. -/
theorem sampling_keeps_verdict :
    (∀ image : Image, Sample.scan image = Signature.scan image.window) ∧
    (∀ (s : Storage) (path : String) (found : Option Content),
      content? s path = .ok found ↔
        ∃ h image, s.openFile .openRead path = .ok h ∧ s.imageOf h = .ok image ∧
          (image.size = 0 ∨ ¬s.Unreadable h) ∧ found = Signature.scan image.window) ∧
    ∀ (s : Storage) (path : String) (e : Error), content? s path = .error e →
      ∃ errno, e = .probeFailed path errno :=
  ⟨Sample.scan_eq, fun _ _ _ => content?_eq_ok_iff, fun _ _ _ => exists_probeFailed⟩

end Probe

end ZonedSet
