/-
ZonedSet.Proofs.Opening.Reports — what the devices of a set answer when asked for their zones.

`Backing.Reports` says of an opened device that it answers from a table of descriptors that tile it.
Every block device whose descriptors tile it does so (`Backing.Stored.reports`): asked at the start
of one, it passes over those that are over there, which are the ones before it, and gives as many of
the others as it gives at once. The walk of a set gets these answers (`DeviceSet.answersFrom`), and
gets through with them where they are sound (`DeviceSet.truthful_reporter`).

At the end of the module there is a set to look at, of a zoned device with a short last zone and an
image file behind it.
-/
import ZonedSet.Proofs.Opening.Assembling
import ZonedSet.Proofs.Walk.Tables

namespace ZonedSet

/-! ## Reports from a table -/

namespace Backing

variable {s : Storage} {d e : Backing} {table : List RawZone} {device : BlockDevice}

/-- The device reports from a table of descriptors that tile it. Asked at the start of one, it gives
a run of them, beginning with that one, as long as it likes. -/
structure Reports (s : Storage) (d : Backing) (table : List RawZone) : Prop where
  tiles : Tiles 0 (table.map RawZone.extent) d.capacity
  run : ∀ j raw buffer, table[j]? = some raw →
    d.reportZones s raw.start (.prepare raw.start) = .ok buffer → buffer.zones <+: table.drop j

/-- What a device reports does not depend on its place in a set. -/
theorem Reports.of_unplaced_eq (h : d.unplaced = e.unplaced) (reports : d.Reports s table) :
    e.Reports s table := by
  have hunplaced : d.unplaced.Reports s table := ⟨reports.tiles, reports.run⟩
  rw [h] at hunplaced
  exact ⟨hunplaced.tiles, hunplaced.run⟩

end Backing

/-- In a tiling without empty extents, those that are not over where one begins are that one and the
ones after it. -/
theorem Tiles.filter_eq_drop {α : Type} {f : α → Extent} {first stop j : Nat} {xs : List α} {x : α}
    (h : Tiles first (xs.map f) stop) (hpos : ∀ y ∈ xs, 0 < (f y).length) (hx : xs[j]? = some x) :
    xs.filter (fun y => (f x).start < (f y).start + (f y).length) = xs.drop j := by
  obtain ⟨hj, hget⟩ := List.getElem?_eq_some_iff.mp hx
  have hdrop : xs.drop j = x :: xs.drop (j + 1) := by rw [← hget, List.getElem_cons_drop]
  have hsplit := List.take_append_drop j xs
  rw [← hsplit, List.map_append] at h
  obtain ⟨mid, hbefore, hafter⟩ := tiles_append.mp h
  have hmid : (f x).start = mid := by
    rw [hdrop] at hafter
    exact hafter.1
  conv => lhs; rw [← hsplit]
  rw [List.filter_append, List.filter_eq_nil_iff.mpr, List.filter_eq_self.mpr, List.nil_append]
  · intro y hy
    have hstart := (hafter.between (List.mem_map_of_mem hy)).1
    have := hpos y (List.mem_of_mem_drop hy)
    exact decide_eq_true (by omega)
  · intro y hy
    have hstop := (hbefore.between (List.mem_map_of_mem hy)).2
    simp only [decide_eq_true_eq]
    omega

/-! ## Block devices -/

theorem ReportBuffer.headerCount_prepare (sector : Nat) :
    (prepare sector).headerCount = maxZones := by
  have h := number_put (empty.put 0 (LittleEndian.encode 8 sector)) (i := 8) [] []
    (by simp; rfl) (show maxZones < LittleEndian.span 4 by decide)
    (by simp [LittleEndian.length_encode])
  simpa [prepare, headerCount] using h

namespace BlockDevice

variable {device : BlockDevice}

/-- The zones of the device, as they are read from its reports. -/
def table (device : BlockDevice) : List RawZone :=
  device.zones.map (·.toRawZone (device.flags.toNat % 2 == 1))

/-- A report that is made has the zones from its sector on, as many as the device gives at once. -/
theorem zones_of_report {sector : Nat} {buffer : ReportBuffer}
    (h : device.report sector (.prepare sector) = .ok buffer) :
    buffer.zones = (device.zonesFrom sector ReportBuffer.maxZones).map
      (·.toRawZone (device.flags.toNat % 2 == 1)) := by
  unfold report at h
  split at h
  · cases h
  · dsimp only at h
    rw [ReportBuffer.headerCount_prepare] at h
    have hfit : (device.zonesFrom sector ReportBuffer.maxZones).length ≤ ReportBuffer.maxZones := by
      unfold zonesFrom
      dsimp only
      rw [List.length_take]
      split <;> omega
    generalize device.zonesFrom sector ReportBuffer.maxZones = zones at h hfit ⊢
    have hcount : (UInt32.ofNat zones.length).toNat = zones.length := by
      have hmax : ReportBuffer.maxZones = 8191 := rfl
      rw [UInt32.toNat_ofNat']
      omega
    rw [← Except.ok.inj h, ReportBuffer.zones_fill _ _ hcount hfit]

/-- Where the descriptors tile the device, the zones from the start of one on are that one and those
after it, cut to a positive number. -/
theorem exists_zonesFrom {capacity j : Nat} {raw : RawZone}
    (tiles : Tiles 0 (device.table.map RawZone.extent) capacity)
    (hpos : ∀ raw ∈ device.table, 0 < raw.length) (hraw : device.table[j]? = some raw) :
    ∃ most, 0 < most ∧ (device.zonesFrom raw.start ReportBuffer.maxZones).map
      (·.toRawZone (device.flags.toNat % 2 == 1)) = (device.table.drop j).take most := by
  rw [table, List.getElem?_map, Option.map_eq_some_iff] at hraw
  obtain ⟨z, hz, rfl⟩ := hraw
  rw [table, List.map_map] at tiles
  have hfilter := tiles.filter_eq_drop (fun y hy => hpos _ (List.mem_map_of_mem hy)) hz
  refine ⟨if device.batch = 0 then ReportBuffer.maxZones
    else min ReportBuffer.maxZones device.batch, ?_, ?_⟩
  · have : 0 < ReportBuffer.maxZones := by decide
    split <;> omega
  · rw [table, ← List.map_drop, ← List.map_take]
    exact congrArg (fun ds => (List.take _ ds).map _) hfilter

end BlockDevice

namespace Backing

variable {s : Storage} {d : Backing} {device : BlockDevice} {j : Nat} {raw : RawZone}

/-- The device is an open block device that holds descriptors. They tile it, and none is empty. -/
structure Stored (s : Storage) (d : Backing) (device : BlockDevice) : Prop where
  handle : ∃ h, d.handle = some h ∧ s.block? h.path = some device
  tiles : Tiles 0 (device.table.map RawZone.extent) d.capacity
  length_pos : ∀ raw ∈ device.table, 0 < raw.length

namespace Stored

variable (stored : d.Stored s device)
include stored

theorem reportZones_eq_ok_iff {sector : Nat} {buffer answer : ReportBuffer} :
    d.reportZones s sector buffer = .ok answer ↔ device.report sector buffer = .ok answer := by
  obtain ⟨h, hhandle, hblock⟩ := stored.handle
  simp only [Backing.reportZones, Backing.file, hhandle, Storage.reportZones, hblock]
  cases device.report sector buffer <;> simp

/-- An answer at the start of a zone has that zone, and some of those after it. -/
theorem exists_take (hraw : device.table[j]? = some raw) {buffer : ReportBuffer}
    (h : d.reportZones s raw.start (.prepare raw.start) = .ok buffer) :
    ∃ most, 0 < most ∧ buffer.zones = (device.table.drop j).take most := by
  have hzones := BlockDevice.zones_of_report (stored.reportZones_eq_ok_iff.mp h)
  obtain ⟨most, hmost, htake⟩ := BlockDevice.exists_zonesFrom stored.tiles stored.length_pos hraw
  exact ⟨most, hmost, hzones.trans htake⟩

/-- **A block device whose descriptors tile it reports from them.** -/
theorem reports : d.Reports s device.table where
  tiles := stored.tiles
  run := by
    intro j raw buffer hraw h
    obtain ⟨most, -, hzones⟩ := stored.exists_take hraw h
    rw [hzones]
    exact List.take_prefix _ _

/-- A device that does not fail has an answer. -/
theorem exists_report (working : device.reportFailure = none)
    (hraw : device.table[j]? = some raw) :
    ∃ buffer, d.reportZones s raw.start (.prepare raw.start) = .ok buffer ∧ buffer.zones ≠ [] := by
  have hreport : ∃ buffer, device.report raw.start (.prepare raw.start) = .ok buffer := by
    rw [BlockDevice.report, working]
    exact ⟨_, rfl⟩
  obtain ⟨buffer, hbuffer⟩ := hreport
  have h := stored.reportZones_eq_ok_iff.mpr hbuffer
  refine ⟨buffer, h, ?_⟩
  obtain ⟨most, hmost, hzones⟩ := stored.exists_take hraw h
  obtain ⟨hj, -⟩ := List.getElem?_eq_some_iff.mp hraw
  rw [hzones, ne_eq, List.take_eq_nil_iff, List.drop_eq_nil_iff]
  omega

end Stored

end Backing

/-! ## The devices of a set -/

namespace DeviceSet

variable {s : Storage} {devices : List Backing}

/-- In a walk the device at an index answers from its table. -/
theorem answersFrom {i : Nat} {d : Backing} {table : List RawZone} (hi : devices[i]? = some d)
    (reports : d.Reports s table) : AnswersFrom (reporter s devices) i d.toMember table where
  tiles := reports.tiles
  run := by
    intro earlier j raw buffer hraw h
    rw [reporter] at h
    simp only [hi] at h
    exact reports.run j raw buffer hraw h

/-- Devices that hold their tables, and do not fail, are truthful about them. -/
theorem truthful_reporter {fleet : List Tabled}
    (stored : ∀ (i : Nat) (t : Tabled), fleet[i]? = some t → t.device.model.isZoned = true →
      ∃ (d : Backing) (device : BlockDevice), devices[i]? = some d ∧ d.Stored s device ∧
        device.reportFailure = none ∧ t.table = device.table) :
    Truthful fleet (reporter s devices) := by
  intro earlier i t j raw hi zoned hraw
  obtain ⟨d, device, hd, stored, working, htable⟩ := stored i t hi zoned
  rw [htable] at hraw ⊢
  obtain ⟨buffer, h, hne⟩ := stored.exists_report working hraw
  refine ⟨buffer, ?_, hne, stored.reports.run j raw buffer hraw h⟩
  rw [reporter]
  simp only [hd, h]

end DeviceSet

/-- The zones of a walk of truthful devices, in the form in which they are known. -/
theorem collectZones_of_expected {label : String} {zoneSectors : Nat} {fleet : List Tabled}
    {report : Reporter} {zones : Array Zone} (fs : FleetSound zoneSectors fleet)
    (truthful : Truthful fleet report) (hzones : expected zoneSectors fleet = zones.toList)
    (htotal : totalZones (membersIn fleet) ≤ zoneLimit)
    (hend : frontier zones = totalCapacity (membersIn fleet)) :
    (collectZones label (membersIn fleet) zoneSectors report).result = .ok zones := by
  obtain ⟨passes, trace, htaken⟩ := fs.exists_trace truthful .start (List.nil_append _).symm
  have hsize : zones.size = totalZones (membersIn fleet) := by
    rw [← Array.length_toList, ← hzones, fs.length_expected]
  have account : Account (membersIn fleet) zoneSectors report passes zones :=
    ⟨trace, hzones.symm.trans htaken.symm, fs.laid.capacity_lt, htotal, hsize, hend⟩
  exact congrArg Walk.result (collectZones_of_account account)

/-! ## A zoned device and an image file

The zoned device has three zones, of which the last one is short, and reports them one at a time. An
image file of nine sectors comes after it. -/

def threeZones : BlockDevice where
  capacity := .ok 307200
  reportFailure := none
  zones := [⟨0, 256, 256, 256, 1, 0, 0, 0⟩, ⟨256, 256, 300, 256, 2, 2, 0, 0⟩,
    ⟨512, 88, 512, 88, 2, 1, 0, 0⟩]
  batch := 1
  flags := 1

def zonedAndFile : Storage :=
  ((((Storage.bare.putFile "/z" (.zeros 0)).putFile "/b" (.zeros 4608)).putFile
    "/sys/block/z/queue/zoned" (.ofBytes "host-managed".toUTF8.data)).putFile
    "/sys/block/z/queue/chunk_sectors" (.ofBytes "256".toUTF8.data)).attachBlock "/z" threeZones

def zonedZ : Backing := ⟨⟨"z", .hostManaged, 600, 3, 0⟩, "/z", some ⟨5, "/z"⟩, 256⟩

def zonedSet : DeviceSet where
  label := "z+b"
  devices := [zonedZ, { imageB with zoneCount := 1, zoneSectors := 256, blockOffset := 75 }]
  capacity := 609
  zoneSectors := 256
  zones := #[⟨0, 256, 256, none, .conventional, .notWritePointer, false, false⟩,
    ⟨256, 256, 256, some 300, .sequentialRequired, .implicitOpen, false, false⟩,
    ⟨512, 88, 88, some 512, .sequentialRequired, .empty, false, false⟩, .emulated 600 9]

theorem openDevices_zonedAndFile :
    DeviceSet.openDevices zonedAndFile inspectFiles ["/z", "/b"] = .ok [zonedZ, imageB] :=
  eq_ok_of_toOption (by decide +kernel)

theorem stored_zonedZ : zonedZ.Stored zonedAndFile threeZones where
  handle := ⟨_, rfl, rfl⟩
  tiles := by decide
  length_pos := by decide

/-- The devices of the set, with their tables. -/
def zonedFleet : List Tabled :=
  [⟨zonedZ.toMember, threeZones.table⟩, ⟨⟨"b", .regular, 9, 1, 75⟩, []⟩]

theorem collectZones_zonedSet :
    (collectZones "z+b" (DeviceSet.membersOf zonedSet.devices) 256
      (DeviceSet.reporter zonedAndFile zonedSet.devices)).result = .ok zonedSet.zones := by
  have fs : FleetSound 256 zonedFleet := ⟨by decide, by decide, by decide⟩
  have truthful : Truthful zonedFleet (DeviceSet.reporter zonedAndFile zonedSet.devices) := by
    refine DeviceSet.truthful_reporter fun i t hi zoned => ?_
    match i with
    | 0 =>
      obtain rfl := Option.some.inj hi
      exact ⟨zonedZ, threeZones, rfl, stored_zonedZ, rfl, rfl⟩
    | 1 =>
      obtain rfl := Option.some.inj hi
      cases zoned
  exact collectZones_of_expected fs truthful (by decide) (by decide) (by decide)

theorem assemble_zonedAndFile :
    DeviceSet.assemble zonedAndFile none [zonedZ, imageB] none = .ok zonedSet := by
  have stages : DeviceSet.Stages zonedAndFile none [zonedZ, imageB] none
      [zonedZ, { imageB with zoneCount := 1, zoneSectors := 256 }] zonedSet :=
    { chosen := ⟨zonedZ, [imageB], rfl, eq_ok_of_toOption (by decide +kernel)⟩
      adoption := eq_ok_of_toOption (by decide +kernel)
      laid := eq_ok_of_toOption (by decide +kernel)
      collected := collectZones_zonedSet
      capacity_eq := by decide }
  exact stages.assemble_eq (by decide +kernel)

end ZonedSet
