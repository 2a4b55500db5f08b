/-
ZonedSet.Proofs.Layout.Nesting — blocks lie within zones, and zones within devices.

Three structures divide the space of a set, each made on its own: the offsets of the devices, the
array of zones, and the blocks. Where zoned devices report a tiling of themselves they agree. No
block is in two zones, no zone is on two devices, and the three look-ups give answers that belong
together (`DeviceSet.exists_nested`).

The zones divide the space then (`Account.divides`). That no zone is on two devices is part of it.
That no block is in two zones comes down to where zones start. A short zone moves all later ones
off the multiples of the zone size, but it ends where its device ends. That is at a block, unless
nothing comes after it, and so every zone starts at a block (`Divides.start_mod`).
-/
import ZonedSet.Proofs.Layout.ZoneSearch
import ZonedSet.Proofs.Opening.Geometry
import ZonedSet.Proofs.Opening.Reports

namespace ZonedSet

/-! ## Tilings -/

/-- Every sector between the ends of a tiling is in an extent. -/
theorem Tiles.exists_at {first stop sector : Nat} {es : List Extent} (h : Tiles first es stop)
    (hfirst : first ≤ sector) (hstop : sector < stop) :
    ∃ (k : Nat) (e : Extent), es[k]? = some e ∧ e.start ≤ sector ∧ sector < e.start + e.length := by
  induction es generalizing first with
  | nil =>
    have : first = stop := h
    omega
  | cons e rest ih =>
    obtain ⟨hstart, hrest⟩ := h
    by_cases hlt : sector < first + e.length
    · exact ⟨0, e, rfl, by omega, by omega⟩
    · obtain ⟨k, f, hk, hf⟩ := ih hrest (by omega)
      exact ⟨k + 1, f, by simpa using hk, hf⟩

/-- If a tiling starts at a multiple of a size, and each extent that does so ends at a multiple, or
where the tiling ends, then all its extents start at multiples. -/
theorem Tiles.start_mod {size first stop : Nat} {es : List Extent} (h : Tiles first es stop)
    (hfirst : first % size = 0) (hpos : ∀ e ∈ es, 0 < e.length)
    (hend : ∀ e ∈ es, e.start % size = 0 →
      (e.start + e.length) % size = 0 ∨ e.start + e.length = stop) :
    ∀ e ∈ es, e.start % size = 0 := by
  induction es generalizing first with
  | nil => simp
  | cons e rest ih =>
    obtain ⟨rfl, hrest⟩ := h
    obtain ⟨he, hend⟩ := List.forall_mem_cons.mp hend
    have hpos := (List.forall_mem_cons.mp hpos).2
    refine List.forall_mem_cons.mpr ⟨hfirst, ?_⟩
    rcases he hfirst with hmultiple | hlast
    · exact ih hrest hmultiple hpos hend
    · -- Nothing comes after an extent that ends where the tiling ends.
      intro f hf
      have := hrest.between hf
      have := hpos f hf
      omega

/-- Every sector of a space that zones tile is in a zone. -/
theorem Tiles.exists_holder {zones : Array Zone} {capacity sector : Nat}
    (h : Tiles 0 (zones.toList.map Zone.extent) capacity) (hlt : sector < capacity) :
    ∃ (k : Nat) (z : Zone), zones[k]? = some z ∧ z.Holds sector := by
  obtain ⟨k, e, hk, hstart, hstop⟩ := h.exists_at (Nat.zero_le _) hlt
  rw [List.getElem?_map, Option.map_eq_some_iff] at hk
  obtain ⟨z, hz, rfl⟩ := hk
  exact ⟨k, z, by simpa using hz, hstart, hstop⟩

/-- Zones that tile a space are in ascending order. -/
theorem ascending_of_tiles {zones : Array Zone} {capacity : Nat}
    (h : Tiles 0 (zones.toList.map Zone.extent) capacity) (hlt : capacity < Word.limit) :
    Layout.Ascending zones where
  stop_lt := by
    intro i z hz
    have hmem : z ∈ zones.toList := List.mem_of_getElem? (by simpa using hz)
    have : z.start + z.length ≤ capacity := (h.between (List.mem_map_of_mem hmem)).2
    omega
  next := by
    intro i z after hz hafter
    have hne : zones.toList ≠ [] := List.ne_nil_of_mem (List.mem_of_getElem? (by simpa using hz))
    exact Nat.le_of_eq (((covers_iff_tiles hne).mpr h).next i z after hz hafter)

/-- A block that begins in a space that zones tile has a zone number: that of the zone that holds
its first sector. -/
theorem Tiles.exists_number {zones : Array Zone} {capacity b : Nat}
    (h : Tiles 0 (zones.toList.map Zone.extent) capacity) (hlimit : capacity < Word.limit)
    (hcount : zones.size ≤ zoneLimit) (hb : 8 * b < capacity) :
    ∃ (n : UInt32) (z : Zone), Layout.zoneNumber? zones b = .ok (some n) ∧
      zones[n.toNat]? = some z ∧ z.Holds (8 * b) := by
  obtain ⟨k, z, hzone, hholds⟩ := h.exists_holder hb
  have hword := Layout.toNat_ofNat_index (Nat.le_trans hcount (by decide)) hzone
  refine ⟨.ofNat k, z, ?_, hword.symm ▸ hzone, hholds⟩
  rw [Layout.zoneNumber?_eq_some_iff (Nat.le_trans hcount (by decide))
    (ascending_of_tiles h hlimit) (by omega), Nat.mul_comm, hword]
  exact ⟨z, hzone, hholds⟩

/-! ## Zones of a divided space -/

section

variable {devices : List Member} {zoneSectors : Nat} {zones : Array Zone}

/-- A device is followed by another one, or ends where the space ends. -/
theorem LaidOut.next_or_last (laid : LaidOut devices) {i : Nat} {dev : Member}
    (hi : devices[i]? = some dev) :
    (∃ next, devices[i + 1]? = some next) ∨ dev.stop = totalCapacity devices := by
  cases hnext : devices[i + 1]? with
  | some next => exact .inl ⟨next, rfl⟩
  | none =>
    right
    rw [laid.stop_eq hi, List.take_of_length_le (List.getElem?_eq_none_iff.mp hnext)]

/-- A device ends at a block, or where the space ends. -/
theorem LaidOut.stop_mod (laid : LaidOut devices) {i : Nat} {dev : Member}
    (hi : devices[i]? = some dev) :
    dev.stop % sectorsPerBlock = 0 ∨ dev.stop = totalCapacity devices := by
  refine (laid.next_or_last hi).imp_left fun ⟨next, hnext⟩ => ?_
  rw [laid.stop_eq hi, ← laid.blockOffset_mul hnext]
  exact Nat.mul_mod_left _ _

namespace Divides

variable (divides : Divides devices zoneSectors zones) (laid : LaidOut devices)
  (hsize : zoneSectors % sectorsPerBlock = 0)
include divides laid hsize

/-- A zone that starts at a block ends at one, or where the space ends. -/
theorem stop_mod {z : Zone} (hz : z ∈ zones.toList) (hstart : z.start % sectorsPerBlock = 0) :
    (z.start + z.length) % sectorsPerBlock = 0 ∨ z.start + z.length = totalCapacity devices := by
  obtain ⟨i, dev, hi, within⟩ := divides.within z hz
  rcases within.length_eq with hlength | hstop
  · left
    simp [Nat.add_mod, hstart, hlength, hsize]
  · rw [hstop]
    exact laid.stop_mod hi

/-- **Every zone starts at a block.** -/
theorem start_mod {z : Zone} (hz : z ∈ zones.toList) : z.start % sectorsPerBlock = 0 := by
  have hall :=
    divides.tiles.start_mod (Nat.zero_mod sectorsPerBlock) (fun e he => ?_) fun e he => ?_
  · exact hall z.extent (List.mem_map_of_mem hz)
  · obtain ⟨z, hz, rfl⟩ := List.mem_map.mp he
    exact divides.length_pos hz
  · obtain ⟨z, hz, rfl⟩ := List.mem_map.mp he
    exact divides.stop_mod laid hsize hz

/-- **No block is in two zones.** The look-up gives the number of a zone that holds all sectors of
the block. -/
theorem exists_zone (hcount : zones.size ≤ zoneLimit) {b : Nat}
    (hb : 8 * b < totalCapacity devices) :
    ∃ (n : UInt32) (z : Zone), Layout.zoneNumber? zones b = .ok (some n) ∧
      zones[n.toNat]? = some z ∧
      ∀ t, 8 * b ≤ t → t < 8 * b + 8 → t < totalCapacity devices → z.Holds t := by
  have hlimit := laid.capacity_lt
  obtain ⟨n, z, hfound, hzone, hholds⟩ := divides.tiles.exists_number hlimit hcount hb
  have hmem : z ∈ zones.toList := List.mem_of_getElem? (by simpa using hzone)
  refine ⟨n, z, hfound, hzone, fun t hge hlt hend => ?_⟩
  have hblock := divides.stop_mod laid hsize hmem (divides.start_mod laid hsize hmem)
  simp only [Zone.Holds, sectorsPerBlock] at *
  omega

end Divides

end

/-! ## Blocks, zones and devices of a set -/

namespace DeviceSet

variable {s : Storage} {label : Option String} {devices : List Backing} {emulated : Option Nat}
  {set : DeviceSet} {b i : Nat} {n : UInt32} {z : Zone} {d : Backing}

theorem exists_of_member_getElem? {dev : Member} (h : (membersOf devices)[i]? = some dev) :
    ∃ d, devices[i]? = some d ∧ d.toMember = dev := by
  rw [membersOf, List.getElem?_map] at h
  exact Option.map_eq_some_iff.mp h

/-- Devices that report from tables do so in their set. -/
theorem exists_answersFrom (h : assemble s label devices emulated = .ok set)
    (opened : ∀ d ∈ devices, d.Opened)
    (tabled : ∀ d ∈ devices, d.model.isZoned = true → ∃ table, d.Reports s table) {dev : Member}
    (hi : (membersOf set.devices)[i]? = some dev) (zoned : dev.model.isZoned = true) :
    ∃ table, AnswersFrom (reporter s set.devices) i dev table := by
  obtain ⟨hsame, -, -⟩ := assemble_ok h opened
  obtain ⟨e, he, rfl⟩ := exists_of_member_getElem? hi
  -- In the list that was assembled there is the same device, without its place.
  obtain ⟨d, hd, hde⟩ := Backing.exists_of_map_unplaced hsame (List.mem_of_getElem? he)
  have hmodel : d.model = e.model := (Backing.model_eq_of_unplaced_eq hde).symm
  obtain ⟨table, reports⟩ := tabled d hd ((congrArg Model.isZoned hmodel).trans zoned)
  exact ⟨table, answersFrom he (reports.of_unplaced_eq hde.symm)⟩

/-- **The zones of a set divide its space,** if the zoned devices report tilings of themselves. -/
theorem divides_of_assemble (h : assemble s label devices emulated = .ok set)
    (opened : ∀ d ∈ devices, d.Opened)
    (tabled : ∀ d ∈ devices, d.model.isZoned = true → ∃ table, d.Reports s table) :
    Divides (membersOf set.devices) set.zoneSectors set.zones := by
  obtain ⟨-, coherent, divided⟩ := assemble_ok h opened
  obtain ⟨adopted, stages⟩ := exists_stages h
  obtain ⟨passes, account⟩ := exists_account stages.collected
  exact account.divides coherent.laid (Backing.validZoneSize_iff.mp divided.valid).1
    fun _ _ => exists_answersFrom h opened tabled

/-- The look-up of a sector gives the device at an index. -/
def SectorOn (set : DeviceSet) (t i : Nat) (d : Backing) : Prop :=
  ∃ l, Layout.sectorOwner? set.blockOffsets t = some (i, l) ∧ set.sectorOwner? t = some (d, l)

theorem Coherent.sectorOn_of_holds (coherent : set.Coherent) {t : Nat}
    (hi : set.devices[i]? = some d) (h : d.toMember.Holds t) : set.SectorOn t i d := by
  have howner := coherent.laid.sectorOwner?_eq (member_getElem? hi) h
  rw [← blockOffsets_eq] at howner
  exact ⟨_, howner, by simp [sectorOwner?, howner, deviceAt, hi]⟩

/-- A block lies in a zone, and the zone on a device. The zone whose number the look-up gives holds
every sector of the block within the set, and all sectors of the zone, its first and its last one
among them, are on the device that the look-up gives for the block. -/
structure Nested (set : DeviceSet) (b : Nat) (n : UInt32) (z : Zone) (i : Nat) (d : Backing) :
    Prop where
  found : set.zoneNumber? b = .ok (some n)
  zone : set.zones[n.toNat]? = some z
  sectors : ∀ t, 8 * b ≤ t → t < 8 * b + 8 → t < set.capacity → z.Holds t
  device : set.devices[i]? = some d
  block : ∃ l, Layout.blockOwner? set.blockOffsets b = some (i, l) ∧
    set.blockOwner? b = some (d, l)
  owned : ∀ t, z.Holds t → set.SectorOn t i d
  first : set.SectorOn z.start i d
  last : set.SectorOn (z.start + z.length - 1) i d

/-- **Blocks lie within zones, and zones within devices.** Every block of a set whose zoned devices
report tilings of themselves lies in one zone, which lies on the device that owns the block. -/
theorem exists_nested (h : assemble s label devices emulated = .ok set)
    (opened : ∀ d ∈ devices, d.Opened)
    (tabled : ∀ d ∈ devices, d.model.isZoned = true → ∃ table, d.Reports s table)
    (hb : 8 * b < set.capacity) :
    ∃ n z i d, set.Nested b n z i d := by
  obtain ⟨-, coherent, divided⟩ := assemble_ok h opened
  have divides := divides_of_assemble h opened tabled
  have hsize : set.zoneSectors % sectorsPerBlock = 0 := by
    rw [(Backing.validZoneSize_iff.mp divided.valid).2, Nat.mul_mod_right]
  have hcapacity := coherent.capacity_eq
  rw [hcapacity] at hb
  obtain ⟨n, z, hfound, hzone, hsectors⟩ :=
    divides.exists_zone coherent.laid hsize divided.zones_le hb
  have hblock := hsectors (8 * b) (Nat.le_refl _) (by omega) hb
  obtain ⟨i, dev, hi, within⟩ :=
    divides.within z (List.mem_of_getElem? (by simpa using hzone))
  obtain ⟨d, hd, rfl⟩ := exists_of_member_getElem? hi
  have howned : ∀ t, z.Holds t → set.SectorOn t i d := by
    rintro t ⟨hstart, hstop⟩
    exact coherent.sectorOn_of_holds hd
      ⟨Nat.le_trans within.holds.1 hstart, Nat.lt_of_lt_of_le hstop within.stop_le⟩
  -- The first sector of the block is on both devices, that of the block and that of the zone.
  obtain ⟨j, l, e, owner⟩ := coherent.exists_blockOwner b
  obtain ⟨hsector, -⟩ := coherent.sectorOwner?_eq (t := 8 * b)
    (show set.BlockOwner (8 * b / 8) j l e by rwa [Nat.mul_div_cancel_left b (by decide)])
  obtain ⟨m, hm, -⟩ := howned (8 * b) hblock
  obtain rfl : j = i := by
    rw [hsector] at hm
    exact (Prod.mk.inj (Option.some.inj hm)).1
  obtain rfl : e = d := Option.some.inj (owner.device.symm.trans hd)
  have hpos := within.length_pos
  exact ⟨n, z, j, e,
    { found := hfound
      zone := hzone
      sectors := hcapacity ▸ hsectors
      device := hd
      block := ⟨l, owner.found, owner.blockOwner?_eq⟩
      owned := howned
      first := howned _ ⟨Nat.le_refl _, by omega⟩
      last := howned _ ⟨by omega, by omega⟩ }⟩

/-- The last block of a set is partial, and in the zone of an image file. -/
theorem exists_nested_zonedSet :
    assemble zonedAndFile none [zonedZ, imageB] none = .ok zonedSet ∧
      (∀ d ∈ [zonedZ, imageB], d.Opened) ∧
      (∀ d ∈ [zonedZ, imageB], d.model.isZoned = true →
        ∃ table, d.Reports zonedAndFile table) ∧
      8 * 76 < zonedSet.capacity ∧ ∃ n z i d, zonedSet.Nested 76 n z i d := by
  have opened := opened_of_openDevices openDevices_zonedAndFile
  have tabled : ∀ d ∈ [zonedZ, imageB], d.model.isZoned = true →
      ∃ table, d.Reports zonedAndFile table := by
    refine List.forall_mem_cons.mpr ⟨fun _ => ⟨_, stored_zonedZ.reports⟩, ?_⟩
    exact List.forall_mem_singleton.mpr fun zoned => nomatch zoned
  have hb : 8 * 76 < zonedSet.capacity := by decide
  exact ⟨assemble_zonedAndFile, opened, tabled, hb,
    exists_nested assemble_zonedAndFile opened tabled hb⟩

end DeviceSet

end ZonedSet
