/-
ZonedSet.Storage.Image — the bytes of a file or a device.

Images are large and mostly zero, so only the stretches that were written are kept, the latest
first; a byte that no stretch covers is zero. No stretch reaches past the end of the image.

`byteAt` is the view through which every operation is described: `byteAt_write`, `byteAt_overwrite`
and `byteAt_resize` say which bytes an operation changes, and to what.
-/

namespace ZonedSet

/-! ## Stretches -/

/-- Bytes written together, from an offset on. -/
structure Stretch where
  offset : Nat
  bytes : Array UInt8
  deriving DecidableEq, Repr, Inhabited

namespace Stretch

/-- The first offset after the stretch. -/
def stop (s : Stretch) : Nat := s.offset + s.bytes.size

/-- Does the stretch cover the offset? -/
def covers (s : Stretch) (i : Nat) : Bool := s.offset ≤ i && i < s.stop

/-- The byte at an offset that the stretch covers. -/
def byteAt (s : Stretch) (i : Nat) : UInt8 := s.bytes.getD (i - s.offset) 0

/-- The part of a stretch below an offset. -/
def below (s : Stretch) (size : Nat) : Stretch := ⟨s.offset, s.bytes.take (size - s.offset)⟩

theorem covers_eq_true {s : Stretch} {i : Nat} :
    s.covers i = true ↔ s.offset ≤ i ∧ i < s.stop := by
  simp [covers]

theorem stop_below_le {s : Stretch} {size : Nat} (h : s.offset < size) :
    (s.below size).stop ≤ size := by
  simp only [stop, below, Array.take_eq_extract, Array.size_extract]
  omega

theorem covers_below {s : Stretch} {size i : Nat} (h : i < size) :
    (s.below size).covers i = s.covers i := by
  rw [Bool.eq_iff_iff, covers_eq_true, covers_eq_true]
  simp only [stop, below, Array.take_eq_extract, Array.size_extract]
  omega

theorem byteAt_below {s : Stretch} {size i : Nat} (h : i < size) (hc : s.offset ≤ i) :
    (s.below size).byteAt i = s.byteAt i := by
  simp only [byteAt, below, Array.getD_eq_getD_getElem?, Array.take_eq_extract,
    Array.getElem?_extract]
  by_cases hi : i - s.offset < s.bytes.size
  · rw [if_pos (by omega)]
    simp
  · rw [if_neg (by omega), Array.getElem?_eq_none (by omega)]

/-- The byte at an offset after writing some stretches, the latest first; zero if none covers it. -/
def read (i : Nat) : List Stretch → UInt8
  | [] => 0
  | s :: rest => if s.covers i then s.byteAt i else read i rest

end Stretch

/-! ## Images -/

/-- A string of bytes, kept sparsely. -/
structure Image where
  size : Nat
  /-- The latest first. -/
  written : List Stretch
  within : ∀ s ∈ written, s.stop ≤ size
  deriving DecidableEq, Repr

namespace Image

/-- An image of zeros. -/
def zeros (size : Nat) : Image := ⟨size, [], by simp⟩

instance : Inhabited Image := ⟨zeros 0⟩

/-- The image that holds just these bytes. -/
def ofBytes (bytes : Array UInt8) : Image := ⟨bytes.size, [⟨0, bytes⟩], by simp [Stretch.stop]⟩

/-- An image with the same byte everywhere. -/
def filled (size : Nat) (b : UInt8) : Image :=
  if b = 0 then zeros size
  else ⟨size, [⟨0, Array.replicate size b⟩], by simp [Stretch.stop]⟩

/-! ## Reading -/

/-- The byte at an offset; zero past the end. -/
def byteAt (image : Image) (i : Nat) : UInt8 := Stretch.read i image.written

/-- The bytes from an offset on, past the end included. -/
def bytesFrom (image : Image) (offset length : Nat) : List UInt8 :=
  (List.range length).map fun i => image.byteAt (offset + i)

/-- The bytes from an offset on, if the image has them all. -/
def slice? (image : Image) (offset length : Nat) : Option (List UInt8) :=
  if offset + length ≤ image.size then some (image.bytesFrom offset length) else none

/-- The bytes from an offset on, cut at the end of the image. -/
def read (image : Image) (offset length : Nat) : List UInt8 :=
  image.bytesFrom offset (min length (image.size - offset))

/-- All bytes. -/
def toList (image : Image) : List UInt8 := image.bytesFrom 0 image.size

/-! ## Writing -/

/-- Writes bytes, from an offset on. A write past the end makes the image longer; the bytes in
between are zero. An empty write does nothing. -/
def write (image : Image) (offset : Nat) (bytes : Array UInt8) : Image :=
  if bytes.isEmpty then image
  else
    { size := max image.size (offset + bytes.size)
      written := ⟨offset, bytes⟩ :: image.written
      within := by
        intro s hs
        rcases List.mem_cons.mp hs with rfl | hs
        · exact Nat.le_max_right ..
        · exact Nat.le_trans (image.within s hs) (Nat.le_max_left ..) }

/-- Writes bytes and keeps the size: what lies past the end is dropped. -/
def overwrite (image : Image) (offset : Nat) (bytes : Array UInt8) : Image :=
  if h : offset < image.size then
    { size := image.size
      written := Stretch.below ⟨offset, bytes⟩ image.size :: image.written
      within := by
        intro s hs
        rcases List.mem_cons.mp hs with rfl | hs
        · exact Stretch.stop_below_le h
        · exact image.within s hs }
  else image

/-- Cuts the image, or makes it longer with zeros. -/
def resize (image : Image) (size : Nat) : Image where
  size := size
  written := (image.written.filter (·.offset < size)).map (·.below size)
  within := by
    intro s hs
    obtain ⟨t, ht, rfl⟩ := List.mem_map.mp hs
    exact Stretch.stop_below_le (by simpa using (List.mem_filter.mp ht).2)

/-! ## The view -/

@[simp] theorem size_zeros (n : Nat) : (zeros n).size = n := rfl

@[simp] theorem byteAt_zeros (n i : Nat) : (zeros n).byteAt i = 0 := rfl

theorem toList_ofBytes (bytes : Array UInt8) : (ofBytes bytes).toList = bytes.toList := by
  refine List.ext_getElem (by simp [toList, bytesFrom, ofBytes]) fun i hi hlt => ?_
  have hsize : i < bytes.size := hlt
  simp [toList, bytesFrom, byteAt, ofBytes, Stretch.read, Stretch.covers, Stretch.stop,
    Stretch.byteAt, hsize]

@[simp] theorem size_resize (image : Image) (n : Nat) : (image.resize n).size = n := rfl

theorem length_bytesFrom (image : Image) (offset length : Nat) :
    (image.bytesFrom offset length).length = length := by
  simp [bytesFrom]

theorem size_write (image : Image) (offset : Nat) {bytes : Array UInt8} (h : bytes.size ≠ 0) :
    (image.write offset bytes).size = max image.size (offset + bytes.size) := by
  rw [write, if_neg (by simpa [Array.isEmpty] using h)]

/-- A write changes just the bytes that it covers. -/
theorem byteAt_write (image : Image) (offset : Nat) (bytes : Array UInt8) (i : Nat) :
    (image.write offset bytes).byteAt i =
      if offset ≤ i ∧ i < offset + bytes.size then bytes.getD (i - offset) 0
      else image.byteAt i := by
  rw [write]
  by_cases he : bytes.isEmpty
  · have hz : bytes.size = 0 := by simpa [Array.isEmpty] using he
    rw [if_pos he, if_neg (by omega)]
  · rw [if_neg he, byteAt, Stretch.read]
    by_cases hc : offset ≤ i ∧ i < offset + bytes.size
    · rw [if_pos hc, if_pos (Stretch.covers_eq_true.mpr hc), Stretch.byteAt]
    · rw [if_neg hc, if_neg (fun h => hc (Stretch.covers_eq_true.mp h)), byteAt]

/-- Overwriting changes just the bytes that it covers, within the image. -/
theorem byteAt_overwrite (image : Image) (offset : Nat) (bytes : Array UInt8) {i : Nat}
    (hi : i < image.size) :
    (image.overwrite offset bytes).byteAt i =
      if offset ≤ i ∧ i < offset + bytes.size then bytes.getD (i - offset) 0
      else image.byteAt i := by
  rw [overwrite]
  by_cases h : offset < image.size
  · rw [dif_pos h, byteAt, Stretch.read, Stretch.covers_below hi]
    by_cases hc : offset ≤ i ∧ i < offset + bytes.size
    · rw [if_pos hc, if_pos (Stretch.covers_eq_true.mpr hc), Stretch.byteAt_below hi hc.1,
        Stretch.byteAt]
    · rw [if_neg hc, if_neg (fun h => hc (Stretch.covers_eq_true.mp h)), byteAt]
  · rw [dif_neg h, if_neg (by omega)]

/-- Resizing keeps the bytes below the new size. -/
theorem byteAt_resize (image : Image) {n i : Nat} (h : i < n) :
    (image.resize n).byteAt i = image.byteAt i := by
  simp only [byteAt, resize]
  induction image.written with
  | nil => rfl
  | cons s rest ih =>
    by_cases ho : s.offset < n
    · rw [List.filter_cons_of_pos (by simpa using ho), List.map_cons, Stretch.read, Stretch.read,
        Stretch.covers_below h, ih]
      by_cases hc : s.covers i = true
      · rw [if_pos hc, if_pos hc, Stretch.byteAt_below h (Stretch.covers_eq_true.mp hc).1]
      · rw [if_neg hc, if_neg hc]
    · have hc : ¬ s.covers i = true := by
        rw [Stretch.covers_eq_true]
        omega
      rw [List.filter_cons_of_neg (by simpa using ho), ih, Stretch.read, if_neg hc]

end Image

end ZonedSet
