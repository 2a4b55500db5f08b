/-
ZonedSet.Proofs.Signature.Uberblocks — the uberblocks of a ZFS member are counted place by place.

`Signature.isZfs_iff`: a sample shows a ZFS member exactly where at least four places of the image
hold an uberblock (`Signature.Uberblock`). A place is an offset into the image, however many of the
labels it is a part of: on an image of less than 1 MiB some or all labels at the back are those at
the front, and below 512 KiB there are none at the back.

What is counted is a list of places (`zfsLabels`, `zfsSlots`). It has no place twice: a label is
listed once, and two labels have no place in common, because they begin at different multiples of
their size (`nodup_slots`). So the count is that of the set `uberblocks`. No place of the list goes
uncounted, either, since all that the tests look at is sampled (`Sample.alike_window`).
-/
import Mathlib.Data.Finset.Card
import ZonedSet.Proofs.Signature.Sampling

namespace ZonedSet

/-- Erasing repetitions leaves none. The recursion is on what is left once everything that equals
the head is gone. -/
theorem nodup_eraseDups {α : Type} [DecidableEq α] : ∀ xs : List α, xs.eraseDups.Nodup
  | [] => by simp
  | x :: xs => by
    rw [List.eraseDups_cons, List.nodup_cons]
    refine ⟨?_, nodup_eraseDups (xs.filter fun y => !y == x)⟩
    simp [List.mem_eraseDups]
termination_by xs => xs.length
decreasing_by exact Nat.lt_succ_of_le (List.length_filter_le _ _)

namespace Signature

/-! ## Labels and slots -/

/-- The size of an image, rounded down to whole labels of 256 KiB. -/
def roundedSize (size : Nat) : Nat := size / zfsLabelSize * zfsLabelSize

/-- A label of a ZFS member may begin at this offset of an image. Two lie at the front, and two at
the rounded end, if there is room for two. -/
inductive LabelAt (size : Nat) : (label : Nat) → Prop where
  | first : LabelAt size 0
  | second : LabelAt size zfsLabelSize
  | third (room : 2 * zfsLabelSize ≤ roundedSize size) :
      LabelAt size (roundedSize size - 2 * zfsLabelSize)
  | fourth (room : 2 * zfsLabelSize ≤ roundedSize size) :
      LabelAt size (roundedSize size - zfsLabelSize)

/-- The first bytes of an uberblock, in the byte order of the host that wrote it: little-endian
here, and reversed for a big-endian host. -/
def uberblockMark : List UInt8 := [0x0c, 0xb1, 0xba, 0x00, 0x00, 0x00, 0x00, 0x00]

/-- The image holds an uberblock at this offset, which is a slot of a label. -/
structure Uberblock (image : Image) (offset : Nat) : Prop where
  slot : ∃ label k, LabelAt image.size label ∧ k < 128 ∧ offset = label + 131072 + k * 1024
  within : offset + 8 ≤ image.size
  marked : image.bytesFrom offset 8 = uberblockMark ∨
    image.bytesFrom offset 8 = uberblockMark.reverse

variable {size label offset : Nat} {image : Image}

theorem mem_zfsLabels_iff : label ∈ zfsLabels size ↔ LabelAt size label := by
  rw [zfsLabels, List.mem_eraseDups, List.mem_append, ← roundedSize]
  constructor
  · rintro (hfront | hback)
    · obtain rfl | rfl : label = 0 ∨ label = zfsLabelSize := by simpa using hfront
      · exact .first
      · exact .second
    · split at hback
      · rename_i room
        rcases List.mem_cons.mp hback with hthird | hlast
        · rw [hthird]
          exact .third room
        · rw [List.mem_singleton.mp hlast]
          exact .fourth room
      · cases hback
  · intro h
    cases h with
    | first => simp
    | second => simp
    | third room => simp [room]
    | fourth room => simp [room]

theorem mem_zfsSlots_iff :
    offset ∈ zfsSlots label ↔ ∃ k < 128, offset = label + 131072 + k * 1024 := by
  simp [zfsSlots, eq_comm]

/-! ## No place twice -/

theorem nodup_zfsLabels (size : Nat) : (zfsLabels size).Nodup := nodup_eraseDups _

theorem nodup_zfsSlots (label : Nat) : (zfsSlots label).Nodup := by
  refine List.Nodup.map ?_ List.nodup_range
  intro i j h
  simp only at h
  omega

/-- A slot is a part of its label alone. -/
theorem disjoint_zfsSlots {other : Nat} (hl : label ∈ zfsLabels size) (ho : other ∈ zfsLabels size)
    (hne : label ≠ other) : List.Disjoint (zfsSlots label) (zfsSlots other) := by
  obtain ⟨m, rfl, -⟩ := Sample.exists_of_mem_zfsLabels hl
  obtain ⟨n, rfl, -⟩ := Sample.exists_of_mem_zfsLabels ho
  intro offset hm hn
  obtain ⟨i, hi, rfl⟩ := mem_zfsSlots_iff.mp hm
  obtain ⟨j, hj, h⟩ := mem_zfsSlots_iff.mp hn
  rw [zfsLabelSize] at *
  omega

/-- The places that are looked at are all different. -/
theorem nodup_slots (size : Nat) : ((zfsLabels size).flatMap zfsSlots).Nodup := by
  refine List.nodup_flatMap.mpr ⟨fun label _ => nodup_zfsSlots label, ?_⟩
  refine (nodup_zfsLabels size).imp_of_mem ?_
  intro label other hl ho hne
  exact disjoint_zfsSlots hl ho hne

/-! ## The count -/

/-- The image as a whole shows the mark where it has all its bytes. -/
theorem hasEither_window_iff :
    image.window.hasEither offset 8 zfsMagic = true ↔
      offset + 8 ≤ image.size ∧ (image.bytesFrom offset 8 = uberblockMark ∨
        image.bytesFrom offset 8 = uberblockMark.reverse) := by
  have hmark : LittleEndian.encode 8 zfsMagic = uberblockMark := by decide
  have hlength : uberblockMark.length = 8 := rfl
  simp only [Window.hasEither, Window.hasLittle, Window.hasBig, Window.has, Image.window,
    Image.slice?, hmark, List.length_reverse, hlength, Bool.or_eq_true, beq_iff_eq]
  by_cases hsize : offset + 8 ≤ image.size
  · simp [hsize]
  · simp [hsize]

/-- The places of an image with an uberblock. -/
def uberblocks (image : Image) : Finset Nat :=
  (((zfsLabels image.size).flatMap zfsSlots).filter
    (image.window.hasEither · 8 zfsMagic)).toFinset

theorem mem_uberblocks_iff : offset ∈ uberblocks image ↔ Uberblock image offset := by
  simp only [uberblocks, List.mem_toFinset, List.mem_filter, List.mem_flatMap, mem_zfsLabels_iff,
    mem_zfsSlots_iff, hasEither_window_iff]
  constructor
  · rintro ⟨⟨label, hlabel, k, hk, hoffset⟩, hsize, hmark⟩
    exact ⟨⟨label, k, hlabel, hk, hoffset⟩, hsize, hmark⟩
  · rintro ⟨⟨label, k, hlabel, hk, hoffset⟩, hsize, hmark⟩
    exact ⟨⟨label, hlabel, k, hk, hoffset⟩, hsize, hmark⟩

/-- **Every place is counted once.** -/
theorem countP_slots (image : Image) :
    ((zfsLabels image.size).flatMap zfsSlots).countP (image.window.hasEither · 8 zfsMagic) =
      (uberblocks image).card := by
  rw [uberblocks, List.toFinset_card_of_nodup ((nodup_slots image.size).filter _),
    List.countP_eq_length_filter]

/-- **What makes a ZFS member:** uberblocks at four places of the image, however large it is and
however its labels coincide. -/
theorem isZfs_iff (image : Image) :
    isZfs (Sample.window image) = true ↔
      ∃ places : Finset Nat, places.card = 4 ∧ ∀ offset ∈ places, Uberblock image offset := by
  have hcount : isZfs image.window = true ↔ 4 ≤ (uberblocks image).card := by
    rw [← countP_slots]
    exact decide_eq_true_iff
  rw [(Sample.alike_window image).isZfs_eq, hcount, Finset.le_card_iff_exists_subset_card]
  constructor
  · rintro ⟨places, hsubset, hcard⟩
    exact ⟨places, hcard, fun offset hoffset => mem_uberblocks_iff.mp (hsubset hoffset)⟩
  · rintro ⟨places, hcard, hplaces⟩
    exact ⟨places, fun offset hoffset => mem_uberblocks_iff.mpr (hplaces offset hoffset), hcard⟩

/-- On an image of 512 KiB the labels at the back are those at the front. -/
example : zfsLabels 524288 = [0, 262144] := by decide

end Signature

end ZonedSet
