/-
ZonedSet.Proofs.Report.Reading — what one reading of a report buffer gives, and what it looks at.

The buffer comes back from a device with anything inside. `ReportBuffer.zone` is defined for every
content all the same: it gives a zone below the count in the header, cut to what fits, and from
there on there is none to be asked for (`zone_eq_error_iff`). The zone is read from the flags and
from the 64 bytes of its own descriptor, which lie inside the buffer, so no other byte can change it
(`zone_congr`).

A buffer that was filled as a report gives its descriptors back one by one (`zone_fill`). How much
of a descriptor comes back is `Descriptor.ReadAs`: all of it, but that its capacity counts as not
told unless the flag is set.
-/
import ZonedSet.Proofs.Report.Encoding

namespace ZonedSet

/-- The zone that is read from a descriptor under these flags. -/
structure Descriptor.ReadAs (d : Descriptor) (flags : UInt32) (z : RawZone) : Prop where
  start_eq : z.start = d.start.toNat
  length_eq : z.length = d.length.toNat
  writePointer_eq : z.writePointer = d.writePointer.toNat
  typeCode_eq : z.typeCode = d.typeCode
  conditionCode_eq : z.conditionCode = d.conditionCode
  nonSequential_iff : z.nonSequential = true ↔ d.nonSequential ≠ 0
  reset_iff : z.reset = true ↔ d.reset ≠ 0
  told : flags &&& 1 ≠ 0 → z.capacity = d.capacity.toNat
  untold : flags &&& 1 = 0 → z.capacity = 0 ∧ z.effectiveCapacity = z.length

/-- The flag of capacities is the lowest bit. -/
theorem capacityFlag_clear_iff (flags : UInt32) : flags &&& 1 = 0 ↔ flags.toNat % 2 = 0 := by
  rw [← UInt32.toNat_inj, UInt32.toNat_and]
  simp [Nat.and_one_is_mod]

theorem Descriptor.readAs_toRawZone (d : Descriptor) (flags : UInt32) :
    d.ReadAs flags (d.toRawZone (flags.toNat % 2 == 1)) where
  start_eq := rfl
  length_eq := rfl
  writePointer_eq := rfl
  typeCode_eq := rfl
  conditionCode_eq := rfl
  nonSequential_iff := by simp [toRawZone]
  reset_iff := by simp [toRawZone]
  told := by
    intro h
    rw [ne_eq, capacityFlag_clear_iff] at h
    have hodd : flags.toNat % 2 = 1 := by omega
    simp [toRawZone, hodd]
  untold := by
    intro h
    rw [capacityFlag_clear_iff] at h
    simp [toRawZone, RawZone.effectiveCapacity, h]

namespace ReportBuffer

variable {buffer other : ReportBuffer} {i : Nat}

/-! ## One reading -/

/-- A reading fails from the count in the header on, or where the buffer is full. -/
theorem zone_eq_error_iff :
    buffer.zone i = .error .reportIndex ↔ min buffer.headerCount 8191 ≤ i := by
  have hmax : maxZones = 8191 := rfl
  rw [zone, zoneCount, hmax]
  split
  · rename_i hlt
    simp only [reduceCtorEq, false_iff]
    omega
  · rename_i hge
    simp only [true_iff]
    omega

/-- Below, it gives a zone. -/
theorem exists_zone (hi : i < min buffer.headerCount 8191) : ∃ z, buffer.zone i = .ok z :=
  ⟨_, if_pos hi⟩

/-- The bytes of a descriptor lie inside the buffer. -/
theorem descriptor_within (h : i < 8191) : 16 + 64 * i + 64 ≤ buffer.bytes.size := by
  have hsize := buffer.size_eq
  omega

/-- **A reading looks at the flags and at its own descriptor.** -/
theorem zone_congr (hi : i < buffer.zoneCount) (hi' : i < other.zoneCount)
    (hflags : other.number 12 4 = buffer.number 12 4)
    (hbytes : ∀ j < 64, other.byte (16 + 64 * i + j) = buffer.byte (16 + 64 * i + j)) :
    other.zone i = buffer.zone i := by
  have htold : other.capacityTold = buffer.capacityTold := by
    rw [capacityTold, capacityTold, hflags]
  have hplace : descriptorOffset i = 16 + 64 * i := by
    simp only [descriptorOffset, headerSize, descriptorSize]
    omega
  rw [zone, zone, if_pos hi, if_pos hi', Except.ok.injEq]
  refine zoneAt_congr ?_ htold
  intro j hj hj'
  have := hbytes (j - descriptorOffset i) (by omega)
  rwa [← hplace, Nat.add_sub_cancel' hj] at this

/-! ## All readings -/

/-- The zones of a report are what its readings give. -/
theorem zone_eq_ok_iff {z : RawZone} : buffer.zone i = .ok z ↔ buffer.zones[i]? = some z := by
  rw [zones, zone, List.getElem?_map]
  split
  · rename_i hlt
    simp [List.getElem?_range hlt]
  · rename_i hge
    have hnone : (List.range buffer.zoneCount)[i]? = none := by simpa using hge
    simp [hnone]

/-- A report that was written into the buffer is read back descriptor by descriptor. -/
theorem zone_fill (buffer : ReportBuffer) (flags : UInt32) {ds : List Descriptor}
    (hfit : ds.length ≤ 8191) :
    (buffer.fill ⟨.ofNat ds.length, flags, ds⟩).zoneCount = ds.length ∧
      ∀ (i : Nat) (d : Descriptor), ds[i]? = some d →
        (buffer.fill ⟨.ofNat ds.length, flags, ds⟩).zone i =
          .ok (d.toRawZone (flags.toNat % 2 == 1)) := by
  have hcount : (UInt32.ofNat ds.length).toNat = ds.length := by
    rw [UInt32.toNat_ofNat']
    omega
  have hzones := zones_fill buffer ⟨.ofNat ds.length, flags, ds⟩ hcount hfit
  constructor
  · have hlength := congrArg List.length hzones
    simpa [zones] using hlength
  · intro i d hd
    rw [zone_eq_ok_iff, hzones, List.getElem?_map, hd]
    rfl

/-- **Reading undoes writing, and keeps to its place.** Whatever the buffer held, a report written
into it is read back, with as many zones and each of them as its descriptor says. And whatever the
buffer holds, there is a zone to be read at just the numbers below the count in the header, 8191 at
most, and it depends on nothing but the flags and the 64 bytes of its descriptor. -/
theorem zone_reads :
    (∀ (buffer : ReportBuffer) (ds : List Descriptor) (flags : UInt32), ds.length ≤ 8191 →
      let filled := buffer.fill ⟨.ofNat ds.length, flags, ds⟩
      filled.zoneCount = ds.length ∧
        ∀ (i : Nat) (d : Descriptor), ds[i]? = some d →
          ∃ z, filled.zone i = .ok z ∧ d.ReadAs flags z) ∧
    ∀ (buffer : ReportBuffer) (i : Nat),
      (buffer.zone i = .error .reportIndex ↔ min buffer.headerCount 8191 ≤ i) ∧
        (i < min buffer.headerCount 8191 →
          (∃ z, buffer.zone i = .ok z) ∧ 16 + 64 * i + 64 ≤ buffer.bytes.size ∧
            ∀ other : ReportBuffer, i < min other.headerCount 8191 →
              other.number 12 4 = buffer.number 12 4 →
              (∀ j < 64, other.byte (16 + 64 * i + j) = buffer.byte (16 + 64 * i + j)) →
                other.zone i = buffer.zone i) := by
  constructor
  · intro buffer ds flags hfit filled
    obtain ⟨hcount, hzone⟩ := zone_fill buffer flags hfit
    exact ⟨hcount, fun i d hd => ⟨_, hzone i d hd, d.readAs_toRawZone flags⟩⟩
  · intro buffer i
    refine ⟨zone_eq_error_iff, fun hi => ⟨exists_zone hi, descriptor_within (by omega), ?_⟩⟩
    intro other hi' hflags hbytes
    exact zone_congr hi hi' hflags hbytes

/-- A conventional zone and one whose capacity is less than its length. -/
def twoDescriptors : List Descriptor :=
  [⟨0, 256, 256, 256, 1, 0, 0, 0⟩, ⟨256, 256, 300, 200, 2, 2, 1, 0⟩]

theorem zone_reads_twoDescriptors :
    let filled := (prepare 0).fill ⟨.ofNat 2, 0, twoDescriptors⟩
    (twoDescriptors.length ≤ 8191 ∧ filled.zoneCount = 2 ∧
        ∃ z, filled.zone 1 = .ok z ∧
          (⟨256, 256, 300, 200, 2, 2, 1, 0⟩ : Descriptor).ReadAs 0 z) ∧
      (filled.zone 2 = .error .reportIndex ↔ min filled.headerCount 8191 ≤ 2) :=
  have hfit : twoDescriptors.length ≤ 8191 := by decide
  have hread := zone_reads.1 (prepare 0) twoDescriptors 0 hfit
  ⟨⟨hfit, hread.1, hread.2 1 _ rfl⟩, (zone_reads.2 _ 2).1⟩

end ReportBuffer

end ZonedSet
