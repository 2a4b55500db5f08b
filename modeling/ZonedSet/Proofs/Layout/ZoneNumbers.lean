/-
ZonedSet.Proofs.Layout.ZoneNumbers — which blocks have a zone, and what its number is.

The search works on sectors, and the first sector of a block is computed within a 64-bit word. From
the block on whose first sector is no word any more, block numbers start over: each is looked up as
the block of its low 61 bits (`Layout.zoneNumber?_mod`). So a block far past the end of a set has a
zone whenever that other block has one, and the look-up tells where a set ends for the numbers below
only (`DeviceSet.zoneNumber?_isSome_iff`).

For a block of the set, the search agrees with a division of the block by the zone size where no
device but the last ends with a shorter zone (`DeviceSet.assemble_foundByDivision`). All zones then
start at the multiples of the zone size. None is shorter except the last, as a device that is not
the last ends at a multiple, and none is longer, as the zones of devices with tables tile the space
and are no more than needed (`Account.length_le`).
-/
import ZonedSet.Proofs.Layout.Nesting
import ZonedSet.Proofs.Walk.Lengths

namespace ZonedSet

variable {zones : Array Zone} {devices : List Member} {zoneSectors capacity block i k : Nat}
  {dev : Member} {z : Zone}

/-! ## Blocks without a first sector -/

/-- The number of blocks whose first sector is a word: the 61st power of two. -/
def blockLimit : Nat := 2305843009213693952

theorem blocksToSectors_mod (block : Nat) :
    blocksToSectors (block % blockLimit) = blocksToSectors block := by
  unfold blocksToSectors Word.wrap Word.limit sectorsPerBlock blockLimit
  omega

namespace Layout

/-- A block is looked up as the block of its low bits. -/
theorem zoneNumber?_mod (zones : Array Zone) (block : Nat) :
    zoneNumber? zones (block % blockLimit) = zoneNumber? zones block := by
  rw [zoneNumber?, zoneNumber?, zoneIndex?, zoneIndex?, blocksToSectors_mod]

/-- Among zones that tile a space, the look-up finds one if and only if the sector that it computes
is below the end. -/
theorem exists_zoneNumber_isSome_iff (tiles : Tiles 0 (zones.toList.map Zone.extent) capacity)
    (hcapacity : capacity < Word.limit) (block : Nat) :
    ∃ found, zoneNumber? zones block = .ok found ∧
      (found.isSome ↔ blocksToSectors block < capacity) := by
  have ascending := ascending_of_tiles tiles hcapacity
  have hword : block % blockLimit * 8 < Word.limit := by
    unfold blockLimit Word.limit
    omega
  rw [← zoneNumber?_mod, ← blocksToSectors_mod, blocksToSectors_of_lt hword]
  refine ⟨_, zoneNumber?_of_zoneIndex? (zoneIndex?_eq_firstHolder? ascending hword), ?_⟩
  rw [Option.isSome_map, Option.isSome_iff_exists]
  simp only [firstHolder?_eq_some_iff ascending]
  constructor
  · rintro ⟨k, z, hz, hholds⟩
    have hmem : z ∈ zones.toList := List.mem_of_getElem? (by simpa using hz)
    have hstop : z.start + z.length ≤ capacity := (tiles.between (List.mem_map_of_mem hmem)).2
    exact Nat.lt_of_lt_of_le hholds.2 hstop
  · exact tiles.exists_holder

end Layout

namespace DeviceSet

/-- **Which blocks have a zone.** The zones of a set tile its space. Then every block is looked up,
and has a zone if and only if its first sector, computed within a word, is below the capacity. This
tells the blocks of the set from the others if and only if the first sector is a word, or what is
left of it in a word is past the end, too. The zone found is that of the block with the same low 61
bits. -/
theorem zoneNumber?_isSome_iff {set : DeviceSet}
    (tiles : Tiles 0 (set.zones.toList.map Zone.extent) set.capacity)
    (hcapacity : set.capacity < Word.limit) (block : Nat) :
    ∃ found, set.zoneNumber? block = .ok found ∧
      (found.isSome ↔ Word.wrap (8 * block) < set.capacity) ∧
      ((found.isSome ↔ 8 * block < set.capacity) ↔
        8 * block < Word.limit ∨ set.capacity ≤ Word.wrap (8 * block)) ∧
      set.zoneNumber? block = set.zoneNumber? (block % blockLimit) := by
  obtain ⟨found, hfound, hsome⟩ := Layout.exists_zoneNumber_isSome_iff tiles hcapacity block
  rw [blocksToSectors, sectorsPerBlock, Nat.mul_comm] at hsome
  refine ⟨found, hfound, hsome, ?_, ?_⟩
  · rw [hsome]
    by_cases hword : 8 * block < Word.limit
    · rw [Word.wrap_of_lt hword]
      exact iff_of_true Iff.rfl (.inl hword)
    · omega
  · exact (Layout.zoneNumber?_mod set.zones block).symm

theorem tiles_imageSet :
    Tiles 0 (imageSet.zones.toList.map Zone.extent) imageSet.capacity := by decide

/-- A block of the set has a zone, and so has one with the same low bits. -/
theorem zoneNumber?_isSome_iff_imageSet :
    Tiles 0 (imageSet.zones.toList.map Zone.extent) imageSet.capacity ∧
      imageSet.capacity < Word.limit ∧
      ∃ found, imageSet.zoneNumber? (blockLimit + 3) = .ok found ∧
        (found.isSome ↔ Word.wrap (8 * (blockLimit + 3)) < imageSet.capacity) ∧
        ((found.isSome ↔ 8 * (blockLimit + 3) < imageSet.capacity) ↔
          8 * (blockLimit + 3) < Word.limit ∨
            imageSet.capacity ≤ Word.wrap (8 * (blockLimit + 3))) ∧
        imageSet.zoneNumber? (blockLimit + 3) =
          imageSet.zoneNumber? ((blockLimit + 3) % blockLimit) :=
  have hcapacity : imageSet.capacity < Word.limit := by decide
  ⟨tiles_imageSet, hcapacity, zoneNumber?_isSome_iff tiles_imageSet hcapacity _⟩

/-- A block past the end may have a zone. -/
theorem high_block_has_zone :
    openAt twoImages inspectFiles ["/a", "/b"] = .ok imageSet ∧
      Tiles 0 (imageSet.zones.toList.map Zone.extent) imageSet.capacity ∧
      blockLimit < Word.limit ∧ ¬8 * blockLimit < imageSet.capacity ∧
      imageSet.zoneNumber? blockLimit = .ok (some 0) := by
  refine ⟨openAt_twoImages, tiles_imageSet, by decide, by decide, ?_⟩
  have ascending := ascending_of_tiles tiles_imageSet (by decide)
  rw [zoneNumber?, ← Layout.zoneNumber?_mod,
    Layout.zoneNumber?_eq_some_iff (by decide) ascending (by decide)]
  exact ⟨_, rfl, by decide⟩

end DeviceSet

/-! ## Whole zones -/

/-- Every device but the last has a whole number of zones. -/
def WholeZones (zoneSectors : Nat) (devices : List Member) : Prop :=
  ∀ (i : Nat) (dev next : Member), devices[i]? = some dev → devices[i + 1]? = some next →
    dev.capacity % zoneSectors = 0

/-- The capacities of the devices before a device are a multiple of the zone size. -/
theorem WholeZones.totalCapacity_mod (whole : WholeZones zoneSectors devices)
    (hi : devices[i]? = some dev) : totalCapacity (devices.take i) % zoneSectors = 0 := by
  induction i generalizing dev with
  | zero => exact Nat.zero_mod _
  | succ i ih =>
    have hlt : i + 1 < devices.length := (List.getElem?_eq_some_iff.mp hi).1
    have hbefore : devices[i]? = some devices[i] := List.getElem?_eq_getElem (by omega)
    rw [totalCapacity_take_succ hbefore, Nat.add_mod, ih hbefore, whole i _ dev hbefore hi]
    exact Nat.zero_mod _

/-- A device ends at a multiple of the zone size, or where the space ends. -/
theorem WholeZones.stop_mod (whole : WholeZones zoneSectors devices) (laid : LaidOut devices)
    (hi : devices[i]? = some dev) :
    dev.stop % zoneSectors = 0 ∨ dev.stop = totalCapacity devices := by
  refine (laid.next_or_last hi).imp_left fun ⟨next, hnext⟩ => ?_
  rw [laid.stop_eq hi]
  exact whole.totalCapacity_mod hnext

/-- A tiling by extents of one size, but for the last one, has its extents at the multiples of the
size. -/
theorem Tiles.start_eq_mul {first stop : Nat} {es : List Extent} (h : Tiles first es stop)
    (hpos : ∀ e ∈ es, 0 < e.length)
    (heq : ∀ e ∈ es, e.length = zoneSectors ∨ e.start + e.length = stop) {e : Extent}
    (hk : es[k]? = some e) : e.start = first + k * zoneSectors := by
  induction es generalizing first k with
  | nil => simp at hk
  | cons f rest ih =>
    obtain ⟨hstart, hrest⟩ := h
    cases k with
    | zero =>
      obtain rfl : f = e := by simpa using hk
      omega
    | succ k =>
      have hk : rest[k]? = some e := by simpa using hk
      have hposRest := (List.forall_mem_cons.mp hpos).2
      obtain ⟨hf, heqRest⟩ := List.forall_mem_cons.mp heq
      -- Something comes after the extent, so it is not the last one.
      have hmem := List.mem_of_getElem? hk
      have hbetween := hrest.between hmem
      have := hposRest e hmem
      have hlength : f.length = zoneSectors := hf.resolve_right (by omega)
      rw [ih hrest hposRest heqRest hk, Nat.succ_mul, hlength]
      omega

namespace Divides

variable (divides : Divides devices zoneSectors zones) (laid : LaidOut devices)
  (whole : WholeZones zoneSectors devices)
  (hshort : ∀ z ∈ zones.toList, z.length ≤ zoneSectors)
include divides laid whole hshort

/-- Only the last zone of the space is shorter than the others. -/
theorem length_eq_or_last (hz : z ∈ zones.toList) :
    z.length = zoneSectors ∨ z.start + z.length = totalCapacity devices := by
  -- A zone at a multiple of the size ends at one, or where the space ends.
  have hend : ∀ z ∈ zones.toList, z.start % zoneSectors = 0 →
      (z.start + z.length) % zoneSectors = 0 ∨ z.start + z.length = totalCapacity devices := by
    intro z hz hstart
    obtain ⟨i, dev, hi, within⟩ := divides.within z hz
    rcases within.length_eq with hlength | hstop
    · left
      rw [hlength, Nat.add_mod_right, hstart]
    · rw [hstop]
      exact whole.stop_mod laid hi
  have hstart : z.start % zoneSectors = 0 := by
    refine divides.tiles.start_mod (Nat.zero_mod _) (fun e he => ?_) (fun e he => ?_) z.extent
      (List.mem_map_of_mem hz)
    · obtain ⟨w, hw, rfl⟩ := List.mem_map.mp he
      exact divides.length_pos hw
    · obtain ⟨w, hw, rfl⟩ := List.mem_map.mp he
      exact hend w hw
  refine (hend z hz hstart).imp_left fun hstop => ?_
  -- Its length is a multiple of the size, then, and no longer than it.
  have hmod : z.length % zoneSectors = 0 := by
    rwa [Nat.add_mod, hstart, Nat.zero_add, Nat.mod_mod] at hstop
  exact Nat.le_antisymm (hshort z hz)
    (Nat.le_of_dvd (divides.length_pos hz) (Nat.dvd_of_mod_eq_zero hmod))

/-- **The search is a division.** -/
theorem exists_number_eq_div {zoneBlocks : Nat}
    (hsize : zoneSectors = sectorsPerBlock * zoneBlocks) (hcount : zones.size ≤ zoneLimit)
    (hblock : 8 * block < totalCapacity devices) :
    ∃ n : UInt32, Layout.zoneNumber? zones block = .ok (some n) ∧
      n.toNat = block / zoneBlocks := by
  obtain ⟨n, z, hfound, hz, hstart, hstop⟩ :=
    divides.tiles.exists_number laid.capacity_lt hcount hblock
  refine ⟨n, hfound, Eq.symm ?_⟩
  have hmem : z ∈ zones.toList := List.mem_of_getElem? (by simpa using hz)
  have hfirst : z.extent.start = 0 + n.toNat * zoneSectors := by
    refine divides.tiles.start_eq_mul (fun e he => ?_) (fun e he => ?_) (by simp [hz])
    · obtain ⟨w, hw, rfl⟩ := List.mem_map.mp he
      exact divides.length_pos hw
    · obtain ⟨w, hw, rfl⟩ := List.mem_map.mp he
      exact divides.length_eq_or_last laid whole hshort hw
  have hlength := hshort z hmem
  have hmul : n.toNat * zoneSectors = 8 * (n.toNat * zoneBlocks) := by
    rw [hsize, sectorsPerBlock, Nat.mul_left_comm]
  simp only [Zone.extent, sectorsPerBlock] at hfirst hsize
  refine Nat.div_eq_of_lt_le ?_ ?_
  · omega
  · rw [Nat.succ_mul]
    omega

end Divides

namespace DeviceSet

variable {set : DeviceSet} {s : Storage} {label : Option String} {given : List Backing}
  {emulated : Option Nat}

/-- Every block of the set is in the zone whose number is the block, divided by the zone size. -/
def FoundByDivision (set : DeviceSet) : Prop :=
  ∀ block, 8 * block < set.capacity →
    ∃ n : UInt32, set.zoneNumber? block = .ok (some n) ∧ n.toNat = block / set.zoneBlocks

theorem Divided.counted (divided : set.Divided) :
    Counted set.zoneSectors (membersOf set.devices) := by
  intro dev hdev
  obtain ⟨d, hd, rfl⟩ := List.mem_map.mp hdev
  exact (Backing.zoneCountFor_eq_ok_iff.mp (divided.sized d hd).zoneCount_ok).1

/-- The zones of a walk whose zoned devices answer from tables are found by division. -/
theorem foundByDivision_of_account (coherent : set.Coherent) (divided : set.Divided)
    (whole : WholeZones set.zoneSectors (membersOf set.devices)) {report : Reporter}
    {passes : List Pass}
    (account : Account (membersOf set.devices) set.zoneSectors report passes zones)
    (tabled : ∀ i dev, (membersOf set.devices)[i]? = some dev → dev.model.isZoned = true →
      ∃ table, AnswersFrom report i dev table) :
    { set with zones }.FoundByDivision := by
  obtain ⟨hpos, hsize⟩ := Backing.validZoneSize_iff.mp divided.valid
  have divides := account.divides coherent.laid hpos tabled
  have hshort := account.length_le coherent.laid divided.counted divides.tiles
  intro block hblock
  have hblock : 8 * block < totalCapacity (membersOf set.devices) := by
    rw [← coherent.capacity_eq]
    exact hblock
  have hcount : zones.size ≤ zoneLimit := account.size_eq.symm ▸ account.total_le
  exact divides.exists_number_eq_div coherent.laid whole hshort hsize hcount hblock

/-- **The search agrees with a division** for every block of a set, if its zoned devices report
tilings of themselves and every device but the last has a whole number of zones. This is true of the
zones that the set was assembled with, and of those of any other walk over its devices in which the
zoned ones answer from tables, in whatever batches. -/
theorem assemble_foundByDivision (h : assemble s label given emulated = .ok set)
    (opened : ∀ d ∈ given, d.Opened)
    (whole : WholeZones set.zoneSectors (membersOf set.devices)) :
    ((∀ d ∈ given, d.model.isZoned = true → ∃ table, d.Reports s table) →
        set.FoundByDivision) ∧
      ∀ name report zones,
        (collectZones name (membersOf set.devices) set.zoneSectors report).result = .ok zones →
          (∀ i dev, (membersOf set.devices)[i]? = some dev → dev.model.isZoned = true →
            ∃ table, AnswersFrom report i dev table) →
              { set with zones }.FoundByDivision := by
  obtain ⟨-, coherent, divided⟩ := assemble_ok h opened
  constructor
  · intro tabled
    obtain ⟨adopted, stages⟩ := exists_stages h
    obtain ⟨passes, account⟩ := exists_account stages.collected
    exact foundByDivision_of_account coherent divided whole account
      fun _ _ => exists_answersFrom h opened tabled
  · intro name report zones hwalk tabled
    obtain ⟨passes, account⟩ := exists_account hwalk
    exact foundByDivision_of_account coherent divided whole account tabled

/-! ## A file of whole zones and a zoned device

The image file has 512 sectors, which are two zones. The zoned device after it ends with a shorter
zone. -/

def fileThenZoned : Storage :=
  ((((Storage.bare.putFile "/a" (.zeros 262144)).putFile "/z" (.zeros 0)).putFile
    "/sys/block/z/queue/zoned" (.ofBytes "host-managed".toUTF8.data)).putFile
    "/sys/block/z/queue/chunk_sectors" (.ofBytes "256".toUTF8.data)).attachBlock "/z" threeZones

def wholeA : Backing := ⟨⟨"a", .regular, 512, 0, 0⟩, "/a", some ⟨5, "/a"⟩, 0⟩

def behindA : Backing := ⟨⟨"z", .hostManaged, 600, 3, 0⟩, "/z", some ⟨6, "/z"⟩, 256⟩

def wholeSet : DeviceSet where
  label := "a+z"
  devices := [
    { wholeA with zoneCount := 2, zoneSectors := 256 },
    { behindA with blockOffset := 64 }]
  capacity := 1112
  zoneSectors := 256
  zones := #[.emulated 0 256, .emulated 256 256,
    ⟨512, 256, 256, none, .conventional, .notWritePointer, false, false⟩,
    ⟨768, 256, 256, some 812, .sequentialRequired, .implicitOpen, false, false⟩,
    ⟨1024, 88, 88, some 1024, .sequentialRequired, .empty, false, false⟩]

/-- The devices of the set, with their tables. -/
def wholeFleet : List Tabled :=
  [⟨⟨"a", .regular, 512, 2, 0⟩, []⟩, ⟨⟨"z", .hostManaged, 600, 3, 64⟩, threeZones.table⟩]

theorem stored_behindA (blockOffset : Nat) :
    Backing.Stored fileThenZoned { behindA with blockOffset } threeZones where
  handle := ⟨_, rfl, rfl⟩
  tiles := (by decide : Tiles 0 (threeZones.table.map RawZone.extent) 600)
  length_pos := by decide

theorem openDevices_fileThenZoned :
    openDevices fileThenZoned inspectFiles ["/a", "/z"] = .ok [wholeA, behindA] :=
  eq_ok_of_toOption (by decide +kernel)

theorem collectZones_wholeSet :
    (collectZones "a+z" (membersOf wholeSet.devices) 256
      (reporter fileThenZoned wholeSet.devices)).result = .ok wholeSet.zones := by
  have fs : FleetSound 256 wholeFleet := ⟨by decide, by decide, by decide⟩
  have truthful : Truthful wholeFleet (reporter fileThenZoned wholeSet.devices) := by
    refine truthful_reporter fun i t hi zoned => ?_
    match i with
    | 0 =>
      obtain rfl := Option.some.inj hi
      cases zoned
    | 1 =>
      obtain rfl := Option.some.inj hi
      exact ⟨_, threeZones, rfl, stored_behindA 64, rfl, rfl⟩
  exact collectZones_of_expected fs truthful (by decide) (by decide) (by decide)

theorem assemble_fileThenZoned :
    assemble fileThenZoned none [wholeA, behindA] none = .ok wholeSet := by
  have stages : Stages fileThenZoned none [wholeA, behindA] none
      [{ wholeA with zoneCount := 2, zoneSectors := 256 }, behindA] wholeSet :=
    { chosen := ⟨wholeA, [behindA], rfl, eq_ok_of_toOption (by decide +kernel)⟩
      adoption := eq_ok_of_toOption (by decide +kernel)
      laid := eq_ok_of_toOption (by decide +kernel)
      collected := collectZones_wholeSet
      capacity_eq := by decide }
  exact stages.assemble_eq (by decide +kernel)

theorem wholeZones_wholeSet : WholeZones 256 (membersOf wholeSet.devices) := by
  intro i dev next hi hnext
  match i with
  | 0 =>
    obtain rfl := Option.some.inj hi
    rfl
  | i + 1 => simp [membersOf, wholeSet] at hnext

/-- Blocks of both devices are found, up to the shorter zone at the end. -/
theorem assemble_foundByDivision_wholeSet :
    assemble fileThenZoned none [wholeA, behindA] none = .ok wholeSet ∧
      (∀ d ∈ [wholeA, behindA], d.Opened) ∧
      WholeZones wholeSet.zoneSectors (membersOf wholeSet.devices) ∧
      (∀ d ∈ [wholeA, behindA], d.model.isZoned = true →
        ∃ table, d.Reports fileThenZoned table) ∧
      wholeSet.FoundByDivision := by
  have opened := opened_of_openDevices openDevices_fileThenZoned
  have tabled : ∀ d ∈ [wholeA, behindA], d.model.isZoned = true →
      ∃ table, d.Reports fileThenZoned table := by
    refine List.forall_mem_cons.mpr ⟨(fun zoned => nomatch zoned), ?_⟩
    exact List.forall_mem_singleton.mpr fun _ => ⟨_, (stored_behindA 0).reports⟩
  have hfound := assemble_foundByDivision assemble_fileThenZoned opened wholeZones_wholeSet
  exact ⟨assemble_fileThenZoned, opened, wholeZones_wholeSet, tabled, hfound.1 tabled⟩

end DeviceSet

end ZonedSet
