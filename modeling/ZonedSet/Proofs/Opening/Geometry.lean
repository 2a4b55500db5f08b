/-
ZonedSet.Proofs.Opening.Geometry — the numbers of a set agree, from its opening on.

`DeviceSet.Geometry` gathers what the offsets, the capacities, the zone sizes and the numbers of
zones have to do with each other. The parts come from different stages of assembling: the offsets
from laying out (`Coherent`), the zone sizes from the choice of one and its adoption, the number of
zones from the walk (`Divided`).

An open set only changes by being closed, whatever is asked of it and whatever becomes of the
storage in the meantime. So a step keeps the geometry (`Geometry.serve`), and with it every state
that a set can come to (`Geometry.later`).
-/
import ZonedSet.Session
import ZonedSet.Proofs.Layout.Translation

namespace ZonedSet

/-! ## Zone sizes -/

namespace Backing

variable {d : Backing} {zoneSectors : Nat}

/-- A zone size that can be used is a positive number of whole blocks. -/
theorem validZoneSize_iff :
    validZoneSize zoneSectors = true ↔
      0 < zoneSectors ∧ zoneSectors = sectorsPerBlock * sectorsToBlocks zoneSectors := by
  unfold validZoneSize sectorsToBlocks sectorsPerBlock
  simp only [Bool.and_eq_true, bne_iff_ne, ne_eq, beq_iff_eq]
  omega

/-- The zones of a device cover it, and all of them are needed for that. -/
theorem Sized.covered (sized : d.Sized zoneSectors) :
    (d.zoneCount - 1) * zoneSectors < d.capacity ∧ d.capacity ≤ d.zoneCount * zoneSectors := by
  obtain ⟨hpieces, hne, -⟩ := zoneCountFor_eq_ok_iff.mp sized.zoneCount_ok
  have hlast := (lt_iff_of_pieces? hpieces (d.zoneCount - 1)).mp (by omega)
  have hnone := mt (lt_iff_of_pieces? hpieces d.zoneCount).mpr (Nat.lt_irrefl _)
  exact ⟨hlast, Nat.not_lt.mp hnone⟩

@[simp] theorem toMember_close (d : Backing) : d.close.toMember = d.toMember := rfl

@[simp] theorem zoneSectors_close (d : Backing) : d.close.zoneSectors = d.zoneSectors := rfl

@[simp] theorem zoneBlocks_close (d : Backing) : d.close.zoneBlocks = d.zoneBlocks := rfl

end Backing

namespace DeviceSet

/-! ## The numbers of a set -/

/-- The numbers of a set agree: the devices lie end to end from block zero on and none is empty,
their capacities make up that of the set, all have the same usable zone size, and their zones, as
many as it takes to cover them, make up those of the set. -/
structure Geometry (set : DeviceSet) : Prop where
  nonempty : set.devices ≠ []
  first_offset : ∀ d, set.devices[0]? = some d → d.blockOffset = 0
  next_offset : ∀ (i : Nat) (d next : Backing), set.devices[i]? = some d →
    set.devices[i + 1]? = some next →
      d.capacity % sectorsPerBlock = 0 ∧
        next.blockOffset = d.blockOffset + d.capacity / sectorsPerBlock
  offsets_sorted : set.blockOffsets.Pairwise (· < ·)
  occupied : ∀ d ∈ set.devices, 0 < d.capacity
  capacity_eq : set.capacity = totalCapacity (membersOf set.devices)
  capacity_lt : set.capacity < Word.limit
  zoneSectors_pos : 0 < set.zoneSectors
  zoneSectors_eq : set.zoneSectors = sectorsPerBlock * set.zoneBlocks
  uniform : ∀ d ∈ set.devices,
    d.zoneSectors = set.zoneSectors ∧ d.zoneBlocks = set.zoneBlocks
  covered : ∀ d ∈ set.devices, (d.zoneCount - 1) * set.zoneSectors < d.capacity ∧
    d.capacity ≤ d.zoneCount * set.zoneSectors
  zones_eq : set.zones.size = totalZones (membersOf set.devices)
  zoneCount_eq : set.zoneCount.toNat = set.zones.size

variable {set now : DeviceSet} {s : Storage} {options : OpenOptions} {paths : List String}

theorem membersOf_close (devices : List Backing) :
    membersOf (devices.map Backing.close) = membersOf devices := by
  simp [membersOf, Function.comp_def]

/-- The number of zones fits its word. -/
theorem zoneCount_toNat (h : set.zones.size ≤ zoneLimit) :
    set.zoneCount.toNat = set.zones.size := by
  unfold zoneCount
  rw [UInt32.toNat_ofNat']
  exact Nat.mod_eq_of_lt (by unfold zoneLimit at h; omega)

/-- A device begins where the one before it ends, which is at a block. -/
theorem Coherent.next_offset (coherent : set.Coherent) {i : Nat} {d next : Backing}
    (hd : set.devices[i]? = some d) (hnext : set.devices[i + 1]? = some next) :
    d.capacity % sectorsPerBlock = 0 ∧
      next.blockOffset = d.blockOffset + d.capacity / sectorsPerBlock := by
  have hbefore := coherent.laid.blockOffset_mul (member_getElem? hd)
  have hafter := coherent.laid.blockOffset_mul (member_getElem? hnext)
  rw [totalCapacity_take_succ (member_getElem? hd)] at hafter
  unfold sectorsPerBlock
  omega

/-- **Coherent devices with their zones have a geometry.** -/
theorem geometry_of_divided (coherent : set.Coherent) (divided : set.Divided) :
    set.Geometry where
  nonempty := coherent.nonempty
  first_offset := by
    intro d hd
    have hfirst := coherent.laid.blockOffset_mul (member_getElem? hd)
    simp at hfirst
    omega
  next_offset := fun _ _ _ => coherent.next_offset
  offsets_sorted := coherent.blockOffsets_sorted
  occupied := fun d hd => (divided.sized d hd).capacity_pos
  capacity_eq := coherent.capacity_eq
  capacity_lt := by
    rw [coherent.capacity_eq]
    exact coherent.laid.capacity_lt
  zoneSectors_pos := (Backing.validZoneSize_iff.mp divided.valid).1
  zoneSectors_eq := (Backing.validZoneSize_iff.mp divided.valid).2
  uniform := by
    intro d hd
    have hsize := (divided.sized d hd).zoneSectors_eq
    exact ⟨hsize, by rw [Backing.zoneBlocks, hsize, zoneBlocks]⟩
  covered := fun d hd => (divided.sized d hd).covered
  zones_eq := divided.zones_eq
  zoneCount_eq := zoneCount_toNat divided.zones_le

/-! ## Later on -/

/-- The state of a set after any requests, each of them answered from any storage. -/
inductive Later (set : DeviceSet) : DeviceSet → Prop
  | opened : Later set set
  | served {now : DeviceSet} (s : Storage) (r : Request) (later : Later set now) :
      Later set (now.serve s r).2.1

/-- Only a request to close changes a set. -/
theorem serve_eq_or (now : DeviceSet) (s : Storage) (r : Request) :
    (now.serve s r).2.1 = now ∨ (now.serve s r).2.1 = now.close := by
  cases r with
  | close => exact .inr rfl
  | _ => exact .inl rfl

/-- Closing lets the files go, and leaves the numbers. -/
theorem Geometry.close (geometry : set.Geometry) : set.close.Geometry where
  nonempty := by simpa [DeviceSet.close] using geometry.nonempty
  first_offset := by
    intro d hd
    obtain ⟨e, he, rfl⟩ : ∃ e, set.devices[0]? = some e ∧ e.close = d := by
      simpa [DeviceSet.close] using hd
    exact geometry.first_offset e he
  next_offset := by
    intro i d next hd hnext
    obtain ⟨e, he, rfl⟩ : ∃ e, set.devices[i]? = some e ∧ e.close = d := by
      simpa [DeviceSet.close] using hd
    obtain ⟨after, hafter, rfl⟩ : ∃ e, set.devices[i + 1]? = some e ∧ e.close = next := by
      simpa [DeviceSet.close] using hnext
    exact geometry.next_offset i e after he hafter
  offsets_sorted := by
    have hsame : set.close.blockOffsets = set.blockOffsets := by
      simp [blockOffsets, DeviceSet.close, Function.comp_def]
    rw [hsame]
    exact geometry.offsets_sorted
  occupied := by simpa [DeviceSet.close] using geometry.occupied
  capacity_eq := by simpa [DeviceSet.close, membersOf_close] using geometry.capacity_eq
  capacity_lt := geometry.capacity_lt
  zoneSectors_pos := geometry.zoneSectors_pos
  zoneSectors_eq := geometry.zoneSectors_eq
  uniform := by simpa [DeviceSet.close, zoneBlocks] using geometry.uniform
  covered := by simpa [DeviceSet.close] using geometry.covered
  zones_eq := by simpa [DeviceSet.close, membersOf_close] using geometry.zones_eq
  zoneCount_eq := geometry.zoneCount_eq

theorem Geometry.serve (geometry : now.Geometry) (s : Storage) (r : Request) :
    (now.serve s r).2.1.Geometry := by
  rcases serve_eq_or now s r with h | h
  · rw [h]
    exact geometry
  · rw [h]
    exact geometry.close

/-- **The numbers stay.** -/
theorem Geometry.later (geometry : set.Geometry) (later : set.Later now) : now.Geometry := by
  induction later with
  | opened => exact geometry
  | served s r _ ih => exact ih.serve s r

/-- **The numbers of a set agree** when it has been opened, and from then on, also after it has been
closed. -/
theorem openAt_geometry (h : openAt s options paths = .ok set) (later : set.Later now) :
    now.Geometry :=
  (geometry_of_divided (coherent_of_openAt h) (divided_of_openAt h)).later later

/-- Two image files, closed after a write. -/
theorem openAt_geometry_imageSet :
    openAt twoImages inspectFiles ["/a", "/b"] = .ok imageSet ∧
      imageSet.Later imageSet.close ∧ imageSet.close.Geometry := by
  have later : imageSet.Later imageSet.close :=
    (Later.opened.served twoImages (.write 1 #[])).served twoImages .close
  exact ⟨openAt_twoImages, later, openAt_geometry openAt_twoImages later⟩

end DeviceSet

end ZonedSet
