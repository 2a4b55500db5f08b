/-
ZonedSet.Report.Buffer — the buffer in which a device describes its zones.

The buffer begins with a header of sixteen bytes: the sector asked for, the number of descriptors
and a word of flags. Descriptors of 64 bytes follow. All numbers are little-endian. The buffer
goes to the device with the header filled in and comes back from it with anything at all inside,
so every reading is defined for every content: the number of descriptors is cut to what fits.
-/
import ZonedSet.Error
import ZonedSet.LittleEndian

namespace ZonedSet

/-! ## Descriptors -/

/-- One zone as a device reports it. Sector numbers are local to the device. -/
structure RawZone where
  start : Nat
  length : Nat
  writePointer : Nat
  /-- Writable sectors; zero where the device does not tell. -/
  capacity : Nat
  typeCode : UInt8
  conditionCode : UInt8
  nonSequential : Bool
  reset : Bool
  deriving DecidableEq, Repr, Inhabited

/-- The writable sectors, or the length where they are not told. -/
def RawZone.effectiveCapacity (z : RawZone) : Nat :=
  if z.capacity = 0 then z.length else z.capacity

/-- One zone as it is written into the buffer. The two flags are bytes; any byte but zero sets
them. -/
structure Descriptor where
  start : UInt64
  length : UInt64
  writePointer : UInt64
  capacity : UInt64
  typeCode : UInt8
  conditionCode : UInt8
  nonSequential : UInt8
  reset : UInt8
  deriving DecidableEq, Repr, Inhabited

/-- The zone that a descriptor describes, when its capacity is told or not. -/
def Descriptor.toRawZone (d : Descriptor) (capacityTold : Bool) : RawZone where
  start := d.start.toNat
  length := d.length.toNat
  writePointer := d.writePointer.toNat
  capacity := if capacityTold then d.capacity.toNat else 0
  typeCode := d.typeCode
  conditionCode := d.conditionCode
  nonSequential := d.nonSequential != 0
  reset := d.reset != 0

/-- The first forty bytes of a descriptor. The four before the capacity are not used. -/
def Descriptor.words (d : Descriptor) : List UInt8 :=
  LittleEndian.encode 8 d.start.toNat ++ LittleEndian.encode 8 d.length.toNat ++
    LittleEndian.encode 8 d.writePointer.toNat ++
    [d.typeCode, d.conditionCode, d.nonSequential, d.reset]

/-! ## The buffer -/

/-- A buffer of 524288 bytes. -/
structure ReportBuffer where
  bytes : Array UInt8
  size_eq : bytes.size = 524288

namespace ReportBuffer

/-- Bytes in the buffer. -/
def size : Nat := 524288

/-- Bytes in the header. -/
def headerSize : Nat := 16

/-- Bytes in a descriptor. -/
def descriptorSize : Nat := 64

/-- The most descriptors that fit. -/
def maxZones : Nat := (size - headerSize) / descriptorSize

/-- A buffer of zeros. -/
def empty : ReportBuffer := ⟨Array.replicate 524288 0, Array.size_replicate⟩

instance : Inhabited ReportBuffer := ⟨empty⟩

/-- The byte at an offset; zero past the end. -/
def byte (buffer : ReportBuffer) (offset : Nat) : UInt8 := buffer.bytes.getD offset 0

/-- The bytes from an offset on. -/
def slice (buffer : ReportBuffer) (offset length : Nat) : List UInt8 :=
  (List.range length).map fun i => buffer.byte (offset + i)

/-- The little-endian number of `width` bytes at an offset. -/
def number (buffer : ReportBuffer) (offset width : Nat) : Nat :=
  LittleEndian.decode (buffer.slice offset width)

/-- Writes one byte. Nothing is written past the end. -/
def putByte (buffer : ReportBuffer) (offset : Nat) (b : UInt8) : ReportBuffer :=
  ⟨buffer.bytes.setIfInBounds offset b, by rw [Array.size_setIfInBounds]; exact buffer.size_eq⟩

/-- Writes bytes, from an offset on. -/
def put (buffer : ReportBuffer) (offset : Nat) : List UInt8 → ReportBuffer
  | [] => buffer
  | b :: rest => put (buffer.putByte offset b) (offset + 1) rest

theorem byte_putByte (buffer : ReportBuffer) (i j : Nat) (b : UInt8) :
    (buffer.putByte i b).byte j = if i = j ∧ j < 524288 then b else buffer.byte j := by
  have hs := buffer.size_eq
  simp only [byte, putByte, Array.getD_eq_getD_getElem?, Array.getElem?_setIfInBounds]
  by_cases h : i = j
  · subst h
    by_cases h' : i < 524288 <;> simp [hs, h']
  · simp [h]

/-- A byte after a write is the written one inside the range, and the old one outside. -/
theorem byte_put (buffer : ReportBuffer) (i j : Nat) (bytes : List UInt8)
    (h : i + bytes.length ≤ 524288) :
    (buffer.put i bytes).byte j =
      if i ≤ j ∧ j < i + bytes.length then bytes.getD (j - i) 0 else buffer.byte j := by
  induction bytes generalizing buffer i with
  | nil =>
    rw [put, if_neg (by simp only [List.length_nil]; omega)]
  | cons b rest ih =>
    simp only [List.length_cons] at h ⊢
    rw [put, ih _ _ (by omega), byte_putByte]
    by_cases h1 : i + 1 ≤ j ∧ j < i + 1 + rest.length
    · rw [if_pos h1, if_pos (by omega)]
      have : j - i = (j - (i + 1)) + 1 := by omega
      rw [this, List.getD_cons_succ]
    · rw [if_neg h1]
      by_cases h2 : i = j
      · rw [if_pos (by omega), if_pos (by omega)]
        subst h2
        simp
      · rw [if_neg (by omega), if_neg (by omega)]

/-! ## Header -/

/-- An empty buffer whose header asks for the zones from `sector` on, as many as fit. -/
def prepare (sector : Nat) : ReportBuffer :=
  (empty.put 0 (LittleEndian.encode 8 sector)).put 8 (LittleEndian.encode 4 maxZones)

/-- The flag that says that the descriptors' capacities are told. -/
def capacityTold (buffer : ReportBuffer) : Bool := buffer.number 12 4 % 2 == 1

/-- The number of descriptors in the header. -/
def headerCount (buffer : ReportBuffer) : Nat := buffer.number 8 4

/-- The number of descriptors in the buffer. -/
def zoneCount (buffer : ReportBuffer) : Nat := min buffer.headerCount maxZones

/-! ## Descriptors in the buffer -/

/-- Where a descriptor begins. -/
def descriptorOffset (i : Nat) : Nat := headerSize + i * descriptorSize

/-- The zone that the bytes at an offset describe. -/
def zoneAt (buffer : ReportBuffer) (offset : Nat) : RawZone where
  start := buffer.number offset 8
  length := buffer.number (offset + 8) 8
  writePointer := buffer.number (offset + 16) 8
  capacity := if buffer.capacityTold then buffer.number (offset + 32) 8 else 0
  typeCode := buffer.byte (offset + 24)
  conditionCode := buffer.byte (offset + 25)
  nonSequential := buffer.byte (offset + 26) != 0
  reset := buffer.byte (offset + 27) != 0

/-- The `i`-th zone of the report. Who asks for it promises that the report has so many. -/
def zone (buffer : ReportBuffer) (i : Nat) : Except Breach RawZone :=
  if i < buffer.zoneCount then .ok (buffer.zoneAt (descriptorOffset i)) else .error .reportIndex

/-- All zones of the report, in order. -/
def zones (buffer : ReportBuffer) : List RawZone :=
  (List.range buffer.zoneCount).map fun i => buffer.zoneAt (descriptorOffset i)

/-! ## The device's side -/

/-- Writes one descriptor. -/
def putDescriptor (buffer : ReportBuffer) (offset : Nat) (d : Descriptor) : ReportBuffer :=
  (buffer.put offset d.words).put (offset + 32) (LittleEndian.encode 8 d.capacity.toNat)

/-- Writes descriptors one after the other. -/
def putDescriptors (buffer : ReportBuffer) (offset : Nat) : List Descriptor → ReportBuffer
  | [] => buffer
  | d :: rest => putDescriptors (buffer.putDescriptor offset d) (offset + descriptorSize) rest

end ReportBuffer

/-- A device's answer to a query: the count and the flags for the header, and the descriptors. The
count is the device's word, and need not be the number of descriptors. -/
structure ZoneReport where
  count : UInt32
  flags : UInt32
  descriptors : List Descriptor
  deriving Repr, Inhabited

/-- A report that tells every capacity and counts its descriptors. -/
def ZoneReport.ofDescriptors (descriptors : List Descriptor) : ZoneReport :=
  ⟨.ofNat descriptors.length, 1, descriptors⟩

/-- Writes a report over what the buffer holds. The sector in the header stays. -/
def ReportBuffer.fill (buffer : ReportBuffer) (report : ZoneReport) : ReportBuffer :=
  ((buffer.put 8 (LittleEndian.encode 4 report.count.toNat)).put 12
    (LittleEndian.encode 4 report.flags.toNat)).putDescriptors ReportBuffer.headerSize
      report.descriptors

end ZonedSet
