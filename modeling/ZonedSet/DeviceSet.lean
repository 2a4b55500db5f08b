/-
ZonedSet.DeviceSet — devices laid end to end, with their zones.

A set has one address space of blocks and sectors. Its zone size is dictated by its zoned devices,
which have to agree; without one it is the caller's. Opening a set opens every device, lays them
out in the order given, and walks their zone reports.
-/
import ZonedSet.Backing
import ZonedSet.Report.Walk

namespace ZonedSet

/-- An opened set of devices. -/
structure DeviceSet where
  label : String
  /-- In the order of the address space. -/
  devices : List Backing
  /-- Capacity in sectors. -/
  capacity : Nat
  /-- Zone size in sectors. -/
  zoneSectors : Nat
  /-- In ascending order. -/
  zones : Array Zone
  deriving DecidableEq, Repr, Inhabited

namespace DeviceSet

/-! ## Assembling -/

/-- The first zoned device that has another zone size, if any. -/
def disagreeing? (zoneSectors : Nat) (zoned : List Backing) : Option Backing :=
  zoned.find? fun d => d.zoneSectors != zoneSectors

/-- The zone size of a set: that of its zoned devices, which have to agree, or the emulated one
if there are none. -/
def chooseZoneSize (first : Backing) (rest : List Backing) (emulated : Option Nat) :
    Except Error Nat :=
  match (first :: rest).filter (·.model.isZoned) with
  | dictating :: others =>
    match disagreeing? dictating.zoneSectors others with
    | some d =>
      .error (.geometry d.name (.zoneSizeDisagreement dictating.zoneSectors d.zoneSectors))
    | none => .ok dictating.zoneSectors
  | [] =>
    let zoneSectors := emulated.getD 0
    if Backing.validZoneSize zoneSectors then .ok zoneSectors
    else .error (.zoneSizeInvalid first.name zoneSectors)

/-- Gives the regular devices the zone size of the set. -/
def adoptZoneSize (zoneSectors : Nat) : List Backing → Except Error (List Backing)
  | [] => .ok []
  | d :: rest => do
    let d ← if d.model.isZoned then pure d else d.withZoneSize zoneSectors
    let rest ← adoptZoneSize zoneSectors rest
    return d :: rest

/-- Lays devices end to end, from a block on. All but the last have to end on a block boundary. -/
def layOut (offset : Nat) : List Backing → Except Error (List Backing)
  | [] => .ok []
  | d :: rest =>
    if rest ≠ [] ∧ d.capacity % sectorsPerBlock ≠ 0 then
      .error (.geometry d.name (.unalignedSpan d.capacity))
    else
      match Word.add? offset (sectorsToBlocks d.capacity) with
      | none => .error (.broken .sum)
      | some stop => do
        let more ← layOut stop rest
        return { d with blockOffset := offset } :: more

/-- The members of a set, for its walk. -/
def membersOf (devices : List Backing) : List Member := devices.map Backing.toMember

/-- How the devices of a set answer queries. -/
def reporter (s : Storage) (devices : List Backing) : Reporter := fun _ query buffer =>
  match devices[query.device]? with
  | some d => d.reportZones s query.sector buffer
  | none => .error (.broken .sectorLayout)

/-- The names of the devices, joined: the label of a set without one. -/
def joinedNames (devices : List Backing) : String := "+".intercalate (devices.map (·.name))

/-- Makes a set of opened devices. -/
def assemble (s : Storage) (label : Option String) (devices : List Backing)
    (emulated : Option Nat) : Except Error DeviceSet := do
  let label := label.getD (joinedNames devices)
  match devices with
  | [] => throw (.invalidLayout label "no backing devices")
  | first :: rest =>
    let zoneSectors ← chooseZoneSize first rest emulated
    let devices ← adoptZoneSize zoneSectors (first :: rest)
    let devices ← layOut 0 devices
    let zones ← (collectZones label (membersOf devices) zoneSectors (reporter s devices)).result
    return {
      label, devices, zoneSectors, zones
      capacity := totalCapacity (membersOf devices) }

/-- Opens devices one after the other, up to the first that fails. -/
def openDevices (s : Storage) (options : OpenOptions) : List String → Except Error (List Backing)
  | [] => .ok []
  | path :: rest => do
    let d ← Backing.openAt s options.purpose options.overwrite options.config path
    let more ← openDevices s options rest
    return d :: more

/-- Opens the devices at these paths as a set. -/
def openAt (s : Storage) (options : OpenOptions) (paths : List String) :
    Except Error DeviceSet := do
  let devices ← openDevices s options paths
  assemble s options.label devices options.zoneSectors

/-! ## Geometry -/

/-- Zone size in blocks. -/
def zoneBlocks (set : DeviceSet) : Nat := sectorsToBlocks set.zoneSectors

/-- The number of zones. Like the numbers of the zones it is a 32-bit word. -/
def zoneCount (set : DeviceSet) : UInt32 := .ofNat set.zones.size

/-- The first block of every device. -/
def blockOffsets (set : DeviceSet) : List Nat := set.devices.map (·.blockOffset)

/-- The device that an index from a look-up names. -/
def deviceAt (set : DeviceSet) : Nat × Nat → Option (Backing × Nat)
  | (i, l) => set.devices[i]?.map (·, l)

/-- The device that owns a block, and the block's local number. -/
def blockOwner? (set : DeviceSet) (block : Nat) : Option (Backing × Nat) :=
  (Layout.blockOwner? set.blockOffsets block).bind set.deviceAt

/-- The device that owns a sector, and the sector's local number. -/
def sectorOwner? (set : DeviceSet) (sector : Nat) : Option (Backing × Nat) :=
  (Layout.sectorOwner? set.blockOffsets sector).bind set.deviceAt

/-- The number of the zone that holds a block. -/
def zoneNumber? (set : DeviceSet) (block : Nat) : Except Breach (Option UInt32) :=
  Layout.zoneNumber? set.zones block

/-- The layout that a dm-zoned target needs: one zoned device, or a regular one for the cache and
zoned ones after it. -/
def checkCacheLayout (set : DeviceSet) : Except Error Unit :=
  match set.devices with
  | [] => .error (.invalidLayout set.label "no backing devices")
  | [only] =>
    if only.model.isZoned then .ok ()
    else .error (.invalidLayout only.name "Not a zoned block device")
  | first :: rest =>
    if first.model.isZoned then
      .error (.invalidLayout first.name "Cache device must be a regular block device")
    else
      match rest.find? fun d => !d.model.isZoned with
      | some d => .error (.invalidLayout d.name "Not a zoned block device")
      | none => .ok ()

/-- Can a zone hold cached data? With several devices the emulated zones can, which are those of
the cache device; with one, those that are written in any order. -/
def isCacheZone (set : DeviceSet) (z : Zone) : Bool :=
  if 1 < set.devices.length then z.isUnknown else z.isRandom

/-! ## Blocks -/

/-- Reads a block. -/
def readBlock (s : Storage) (set : DeviceSet) (block : Nat) : Except Error (List UInt8) :=
  match set.blockOwner? block with
  | none => .error (.broken .blockLayout)
  | some (d, l) => d.readBlock s l block

/-- Writes a block. -/
def writeBlock (s : Storage) (set : DeviceSet) (block : Nat) (bytes : Array UInt8) :
    Storage × Except Error Unit :=
  match set.blockOwner? block with
  | none => (s, .error (.broken .blockLayout))
  | some (d, l) => d.writeBlock s l block bytes

/-- Makes the written blocks of devices last, up to the first device that fails. -/
def syncDevices (s : Storage) : List Backing → Except Error Unit
  | [] => .ok ()
  | d :: rest =>
    match d.sync s with
    | .error e => .error e
    | .ok () => syncDevices s rest

/-- Makes all written blocks last. -/
def sync (s : Storage) (set : DeviceSet) : Except Error Unit := syncDevices s set.devices

/-- Lets all devices go. -/
def close (set : DeviceSet) : DeviceSet := { set with devices := set.devices.map Backing.close }

/-- Is any device open? -/
def isOpen (set : DeviceSet) : Bool := set.devices.any Backing.isOpen

/-! ## In words -/

/-- A length in sectors, with its size in whole MiB, if its size in bytes is a word. -/
def sectorsText? (sectors : Nat) : Option String :=
  (Word.mul? sectors bytesPerSector).map fun bytes =>
    s!"{sectors} 512-byte sectors (" ++ toString (bytes / bytesPerMiB) ++ " MiB)"

/-- The zones in words, if all sizes in bytes are words: the zones of full length by number, the
others one by one. -/
def describe? (set : DeviceSet) : Option (List String) := do
  let (full, runts) := set.zones.toList.partition fun z => z.length == set.zoneSectors
  let size ← sectorsText? set.zoneSectors
  let runtSizes ← runts.mapM fun z => sectorsText? z.length
  return (s!"  {full.length} zones of " ++ size) ::
    runtSizes.map ("  1 runt zone of " ++ ·) ++
    [s!"  {set.zoneBlocks} 4KB data blocks per zone"]

/-- The dump line of a zone, given its number; `none` if no device owns its first sector. -/
def dumpLine? (set : DeviceSet) (id : Nat) (z : Zone) : Option String :=
  (set.sectorOwner? z.start).map fun (d, _) => z.dumpLine id d.name

end DeviceSet

end ZonedSet
