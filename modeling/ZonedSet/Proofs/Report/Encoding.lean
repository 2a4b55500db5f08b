/-
ZonedSet.Proofs.Report.Encoding — reading a report buffer gives back what a device wrote into it.

`ReportBuffer.zones_fill`: when the count in the header is the number of descriptors, and they
fit, the zones of the buffer are the descriptors, in order. What the buffer held before does not
matter, and of the flags only the lowest bit does: it says whether the capacities are told.

The proof is layered. A write leaves the bytes outside its range alone (`slice_put_outside`) and
is read back inside it (`number_put`). `zoneAt_putDescriptor` lifts that to one descriptor, and
`zoneAt_putDescriptors` to a run of them, where the descriptors written later lie behind.
-/
import ZonedSet.Report.Buffer

namespace ZonedSet.ReportBuffer

/-! ## Slices after a write -/

theorem length_slice (buffer : ReportBuffer) (offset length : Nat) :
    (buffer.slice offset length).length = length := by
  simp [slice]

theorem getElem_slice (buffer : ReportBuffer) {offset length k : Nat}
    (h : k < (buffer.slice offset length).length) :
    (buffer.slice offset length)[k] = buffer.byte (offset + k) := by
  simp [slice]

/-- Buffers with the same bytes in a range have the same slice there. -/
theorem slice_congr {buffer other : ReportBuffer} {offset length : Nat}
    (h : ∀ j, offset ≤ j → j < offset + length → buffer.byte j = other.byte j) :
    buffer.slice offset length = other.slice offset length := by
  unfold slice
  refine List.map_congr_left fun k hk => ?_
  have hk := List.mem_range.mp hk
  exact h (offset + k) (by omega) (by omega)

theorem slice_put_outside (buffer : ReportBuffer) {i j n : Nat} {bytes : List UInt8}
    (hfit : i + bytes.length ≤ 524288) (hout : j + n ≤ i ∨ i + bytes.length ≤ j) :
    (buffer.put i bytes).slice j n = buffer.slice j n := by
  refine slice_congr fun k hj hk => ?_
  rw [byte_put _ _ _ _ hfit, if_neg (by omega)]

/-- A part of what was written is read back at its place. -/
theorem slice_put_inside (buffer : ReportBuffer) {i : Nat} (pre mid post : List UInt8)
    (hfit : i + (pre ++ mid ++ post).length ≤ 524288) :
    (buffer.put i (pre ++ mid ++ post)).slice (i + pre.length) mid.length = mid := by
  refine List.ext_getElem (by simp [length_slice]) fun k hk hk' => ?_
  rw [getElem_slice, byte_put _ _ _ _ hfit]
  have hsub : i + pre.length + k - i = pre.length + k := by omega
  rw [if_pos (by simp only [List.length_append]; omega), hsub, List.append_assoc,
    List.getD_eq_getElem?_getD, List.getElem?_append_right (by omega),
    List.getElem?_append_left (by omega), List.getElem?_eq_getElem (by omega)]
  simp

/-- A number that was written is read back at its place. -/
theorem number_put (buffer : ReportBuffer) {i place width n : Nat} (pre post : List UInt8)
    (hplace : place = i + pre.length) (hn : n < LittleEndian.span width)
    (hfit : i + (pre ++ LittleEndian.encode width n ++ post).length ≤ 524288) :
    (buffer.put i (pre ++ LittleEndian.encode width n ++ post)).number place width = n := by
  have hslice := slice_put_inside buffer pre (LittleEndian.encode width n) post hfit
  rw [LittleEndian.length_encode] at hslice
  rw [number, hplace, hslice, LittleEndian.decode_encode hn]

theorem number_put_outside (buffer : ReportBuffer) {i j width : Nat} {bytes : List UInt8}
    (hfit : i + bytes.length ≤ 524288) (hout : j + width ≤ i ∨ i + bytes.length ≤ j) :
    (buffer.put i bytes).number j width = buffer.number j width := by
  rw [number, number, slice_put_outside buffer hfit hout]

/-! ## One descriptor -/

theorem length_words (d : Descriptor) : d.words.length = 28 := by
  simp [Descriptor.words, LittleEndian.length_encode]

/-- A descriptor is written into its own forty bytes. -/
theorem byte_putDescriptor_outside (buffer : ReportBuffer) {offset j : Nat} (d : Descriptor)
    (hfit : offset + 64 ≤ 524288) (hout : j < offset ∨ offset + 64 ≤ j) :
    (buffer.putDescriptor offset d).byte j = buffer.byte j := by
  have hw := length_words d
  have hc := LittleEndian.length_encode 8 d.capacity.toNat
  rw [putDescriptor, byte_put _ _ _ _ (by omega), if_neg (by omega),
    byte_put _ _ _ _ (by omega), if_neg (by omega)]

theorem word_lt (w : UInt64) : w.toNat < LittleEndian.span 8 := w.toNat_lt

/-- A number among the words of a descriptor, read back after the capacity is written too. -/
theorem number_putDescriptor (buffer : ReportBuffer) {offset place n : Nat} {d : Descriptor}
    (pre : List UInt8) {post : List UInt8}
    (hwords : d.words = pre ++ LittleEndian.encode 8 n ++ post)
    (hn : n < LittleEndian.span 8) (hplace : place = offset + pre.length)
    (hfit : offset + 64 ≤ 524288) :
    (buffer.putDescriptor offset d).number place 8 = n := by
  have hw := length_words d
  have hlen : pre.length + 8 + post.length = 28 := by
    rw [← hw, hwords, List.length_append, List.length_append, LittleEndian.length_encode]
  have hc := LittleEndian.length_encode 8 d.capacity.toNat
  rw [putDescriptor, number_put_outside _ (by omega) (by omega), hwords]
  exact number_put _ pre post hplace hn (by rw [← hwords]; omega)

/-- A byte among the words of a descriptor, likewise. -/
theorem byte_putDescriptor_word (buffer : ReportBuffer) {offset k : Nat} (d : Descriptor)
    (hk : k < 28) (hfit : offset + 64 ≤ 524288) :
    (buffer.putDescriptor offset d).byte (offset + k) = d.words.getD k 0 := by
  have hw := length_words d
  have hc := LittleEndian.length_encode 8 d.capacity.toNat
  rw [putDescriptor, byte_put _ _ _ _ (by omega), if_neg (by omega),
    byte_put _ _ _ _ (by omega), if_pos (by omega), Nat.add_sub_cancel_left]

/-- The four single bytes stand behind three words. -/
theorem getD_words (d : Descriptor) (k : Nat) :
    d.words.getD (24 + k) 0 =
      [d.typeCode, d.conditionCode, d.nonSequential, d.reset].getD k 0 := by
  have hlen : (LittleEndian.encode 8 d.start.toNat ++ LittleEndian.encode 8 d.length.toNat ++
      LittleEndian.encode 8 d.writePointer.toNat).length = 24 := by
    simp [LittleEndian.length_encode]
  rw [Descriptor.words, List.getD_eq_getElem?_getD, List.getElem?_append_right (by omega), hlen,
    Nat.add_sub_cancel_left, List.getD_eq_getElem?_getD]

/-- A descriptor that was written is read back. -/
theorem zoneAt_putDescriptor (buffer : ReportBuffer) {offset : Nat} (d : Descriptor)
    (hfit : offset + 64 ≤ 524288) :
    (buffer.putDescriptor offset d).zoneAt offset =
      d.toRawZone (buffer.putDescriptor offset d).capacityTold := by
  have hstart : (buffer.putDescriptor offset d).number offset 8 = d.start.toNat :=
    number_putDescriptor buffer [] (by simp [Descriptor.words]; rfl) (word_lt _)
      (by simp) hfit
  have hlength : (buffer.putDescriptor offset d).number (offset + 8) 8 = d.length.toNat :=
    number_putDescriptor buffer (LittleEndian.encode 8 d.start.toNat)
      (by simp [Descriptor.words]; rfl) (word_lt _) (by simp [LittleEndian.length_encode]) hfit
  have hpointer :
      (buffer.putDescriptor offset d).number (offset + 16) 8 = d.writePointer.toNat :=
    number_putDescriptor buffer
      (LittleEndian.encode 8 d.start.toNat ++ LittleEndian.encode 8 d.length.toNat)
      (by simp [Descriptor.words]; rfl) (word_lt _) (by simp [LittleEndian.length_encode]) hfit
  have hcapacity : (buffer.putDescriptor offset d).number (offset + 32) 8 = d.capacity.toNat := by
    have hc := LittleEndian.length_encode 8 d.capacity.toNat
    have h := number_put (buffer.put offset d.words) (i := offset + 32) [] []
      (by simp; rfl) (word_lt d.capacity) (by simp; omega)
    simpa [putDescriptor] using h
  have hbyte (k : Nat) (hk : k < 4) : (buffer.putDescriptor offset d).byte (offset + (24 + k)) =
      [d.typeCode, d.conditionCode, d.nonSequential, d.reset].getD k 0 := by
    rw [byte_putDescriptor_word buffer d (by omega) hfit, getD_words]
  have htype := hbyte 0 (by omega)
  have hcondition := hbyte 1 (by omega)
  have hsequential := hbyte 2 (by omega)
  have hreset := hbyte 3 (by omega)
  simp only [List.getD_cons_zero, List.getD_cons_succ, Nat.add_zero, Nat.reduceAdd] at *
  simp only [zoneAt, Descriptor.toRawZone, hstart, hlength, hpointer, hcapacity, htype,
    hcondition, hsequential, hreset]

/-! ## Runs of descriptors -/

/-- The equation of a longer run. Unfolding by name would run into the forty byte writes. -/
theorem putDescriptors_cons (buffer : ReportBuffer) (offset : Nat) (d : Descriptor)
    (rest : List Descriptor) :
    buffer.putDescriptors offset (d :: rest) =
      (buffer.putDescriptor offset d).putDescriptors (offset + 64) rest := by
  rw [putDescriptors.eq_def]
  rfl

theorem byte_putDescriptors_outside (buffer : ReportBuffer) {offset j : Nat}
    (ds : List Descriptor) (hfit : offset + 64 * ds.length ≤ 524288)
    (hout : j < offset ∨ offset + 64 * ds.length ≤ j) :
    (buffer.putDescriptors offset ds).byte j = buffer.byte j := by
  induction ds generalizing buffer offset with
  | nil => rfl
  | cons d rest ih =>
    simp only [List.length_cons] at hfit hout
    rw [putDescriptors_cons, ih _ (by omega) (by omega),
      byte_putDescriptor_outside _ _ (by omega) (by omega)]

/-- The flag is read from the header. -/
theorem capacityTold_congr {buffer other : ReportBuffer}
    (h : ∀ j, j < 16 → buffer.byte j = other.byte j) :
    buffer.capacityTold = other.capacityTold := by
  have hslice : buffer.slice 12 4 = other.slice 12 4 := slice_congr fun j _ hj => h j (by omega)
  rw [capacityTold, capacityTold, number, number, hslice]

theorem capacityTold_putDescriptors (buffer : ReportBuffer) {offset : Nat} (ds : List Descriptor)
    (hhead : 16 ≤ offset) (hfit : offset + 64 * ds.length ≤ 524288) :
    (buffer.putDescriptors offset ds).capacityTold = buffer.capacityTold :=
  capacityTold_congr fun _ hj => byte_putDescriptors_outside _ _ hfit (.inl (by omega))

/-- A zone is read from its own bytes, and the flag. -/
theorem zoneAt_congr {buffer other : ReportBuffer} {offset : Nat}
    (hbyte : ∀ j, offset ≤ j → j < offset + 64 → buffer.byte j = other.byte j)
    (htold : buffer.capacityTold = other.capacityTold) :
    buffer.zoneAt offset = other.zoneAt offset := by
  have hnumber (k : Nat) (hk : k + 8 ≤ 64) :
      buffer.number (offset + k) 8 = other.number (offset + k) 8 := by
    rw [number, number, slice_congr fun j _ _ => hbyte j (by omega) (by omega)]
  have hstart := hnumber 0 (by omega)
  rw [Nat.add_zero] at hstart
  simp only [zoneAt, hstart, hnumber 8 (by omega), hnumber 16 (by omega), hnumber 32 (by omega),
    htold, hbyte (offset + 24) (by omega) (by omega), hbyte (offset + 25) (by omega) (by omega),
    hbyte (offset + 26) (by omega) (by omega), hbyte (offset + 27) (by omega) (by omega)]

/-- Every descriptor of a run that was written is read back. -/
theorem zoneAt_putDescriptors (buffer : ReportBuffer) (offset : Nat) {k : Nat}
    (ds : List Descriptor) (hhead : 16 ≤ offset) (hfit : offset + 64 * ds.length ≤ 524288)
    (hk : k < ds.length) :
    (buffer.putDescriptors offset ds).zoneAt (offset + k * 64) =
      ds[k].toRawZone buffer.capacityTold := by
  induction ds generalizing buffer offset k with
  | nil => simp at hk
  | cons d rest ih =>
    simp only [List.length_cons] at hfit hk
    have htold : (buffer.putDescriptor offset d).capacityTold = buffer.capacityTold :=
      capacityTold_congr fun _ hj => byte_putDescriptor_outside _ _ (by omega) (.inl (by omega))
    rw [putDescriptors_cons]
    cases k with
    | zero =>
      -- The first descriptor is still there after the others were written behind it.
      have hsame : ((buffer.putDescriptor offset d).putDescriptors (offset + 64) rest).zoneAt
          offset = (buffer.putDescriptor offset d).zoneAt offset :=
        zoneAt_congr
          (fun j _ hj => byte_putDescriptors_outside _ _ (by omega) (.inl (by omega)))
          (capacityTold_putDescriptors _ _ (by omega) (by omega))
      rw [Nat.zero_mul, Nat.add_zero offset, hsame, zoneAt_putDescriptor _ _ (by omega), htold]
      rfl
    | succ k =>
      have hoff : offset + (k + 1) * 64 = offset + 64 + k * 64 := by omega
      rw [hoff, ih _ _ (by omega) (by omega) (by omega), htold]
      rfl

/-! ## A whole report -/

theorem number_fill_header (buffer : ReportBuffer) (report : ZoneReport)
    (hfit : 16 + 64 * report.descriptors.length ≤ 524288) :
    (buffer.fill report).headerCount = report.count.toNat ∧
      (buffer.fill report).number 12 4 = report.flags.toNat := by
  have hcount : (LittleEndian.encode 4 report.count.toNat).length = 4 :=
    LittleEndian.length_encode 4 _
  have hflags : (LittleEndian.encode 4 report.flags.toNat).length = 4 :=
    LittleEndian.length_encode 4 _
  have hsame (i : Nat) (hi : i + 4 ≤ 16) : (buffer.fill report).number i 4 =
      ((buffer.put 8 (LittleEndian.encode 4 report.count.toNat)).put 12
        (LittleEndian.encode 4 report.flags.toNat)).number i 4 := by
    rw [number, number, fill, slice_congr fun j _ _ =>
      byte_putDescriptors_outside _ _ (by simpa [headerSize] using hfit)
        (.inl (by simp [headerSize]; omega))]
  constructor
  · rw [headerCount, hsame 8 (by omega), number_put_outside _ (by omega) (by omega)]
    have h := number_put buffer (i := 8) [] [] (by simp; rfl)
      (show report.count.toNat < LittleEndian.span 4 from report.count.toNat_lt)
      (by simp; omega)
    simpa using h
  · rw [hsame 12 (by omega)]
    have h := number_put (buffer.put 8 (LittleEndian.encode 4 report.count.toNat)) (i := 12) [] []
      (by simp; rfl) (show report.flags.toNat < LittleEndian.span 4 from report.flags.toNat_lt)
      (by simp; omega)
    simpa using h

/-- **Reading a filled buffer gives the descriptors back.** The capacities are read as they were
written when the flag is set, and as zero when it is not. -/
theorem zones_fill (buffer : ReportBuffer) (report : ZoneReport)
    (hcount : report.count.toNat = report.descriptors.length)
    (hfit : report.descriptors.length ≤ maxZones) :
    (buffer.fill report).zones =
      report.descriptors.map (·.toRawZone (report.flags.toNat % 2 == 1)) := by
  have hmax : maxZones = 8191 := rfl
  have hroom : 16 + 64 * report.descriptors.length ≤ 524288 := by omega
  obtain ⟨hhead, hflags⟩ := number_fill_header buffer report hroom
  have hzones : (buffer.fill report).zoneCount = report.descriptors.length := by
    rw [zoneCount, hhead, hcount, hmax]
    omega
  have htold : (buffer.fill report).capacityTold = (report.flags.toNat % 2 == 1) := by
    rw [capacityTold, hflags]
  refine List.ext_getElem (by simp [zones, hzones]) fun k hk hk' => ?_
  have hk : k < report.descriptors.length := by simpa using hk'
  have hbase : ((buffer.put 8 (LittleEndian.encode 4 report.count.toNat)).put 12
      (LittleEndian.encode 4 report.flags.toNat)).capacityTold =
        (report.flags.toNat % 2 == 1) := by
    rw [← htold, fill, capacityTold_putDescriptors _ _ (by simp [headerSize])
      (by simpa [headerSize] using hroom)]
  have hzone := zoneAt_putDescriptors
    ((buffer.put 8 (LittleEndian.encode 4 report.count.toNat)).put 12
      (LittleEndian.encode 4 report.flags.toNat)) headerSize report.descriptors
    (by simp [headerSize]) (by simpa [headerSize] using hroom) hk
  rw [hbase] at hzone
  simpa [zones, descriptorOffset, descriptorSize, fill] using hzone

/-- A report that counts its descriptors and tells every capacity is read back as it is. -/
theorem zones_fill_ofDescriptors (buffer : ReportBuffer) {ds : List Descriptor}
    (hfit : ds.length ≤ maxZones) :
    (buffer.fill (.ofDescriptors ds)).zones = ds.map (·.toRawZone true) := by
  have hmax : maxZones = 8191 := rfl
  have hcount : (ZoneReport.ofDescriptors ds).count.toNat = ds.length := by
    simp only [ZoneReport.ofDescriptors, UInt32.toNat_ofNat']
    omega
  exact zones_fill buffer (.ofDescriptors ds) hcount hfit

end ZonedSet.ReportBuffer
