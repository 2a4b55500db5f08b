/-
ZonedSet.Backing — one device of a set: opening it, and moving blocks.

A device is opened in steps, and the first that fails gives the error: resolve the path, see that
it is a device, look for content (only before formatting, and unless told to overwrite), look into
the mount table, look for holders (block devices, only before formatting), open it for writing,
and find out its zone model, its capacity and, for zoned devices, its zone size.
-/
import ZonedSet.MountTable
import ZonedSet.Sysfs
import ZonedSet.Probe
import ZonedSet.Options

namespace ZonedSet

/-- An opened device. Its name is the last name of its canonical path. -/
structure Backing extends Member where
  /-- Canonical path. -/
  path : String
  /-- The open file; none once closed. -/
  handle : Option Handle
  /-- Zone size in sectors; zero for a regular device that has not been given one. -/
  zoneSectors : Nat
  deriving DecidableEq, Repr, Inhabited

namespace Backing

/-! ## Zone size -/

/-- Can zones have this size? -/
def validZoneSize (zoneSectors : Nat) : Bool :=
  zoneSectors != 0 && zoneSectors % sectorsPerBlock == 0

/-- The number of zones that cover a capacity. -/
def zoneCountFor (name : String) (capacity zoneSectors : Nat) : Except Error Nat :=
  match pieces? capacity zoneSectors with
  | none => .error (.broken .division)
  | some count =>
    if count = 0 then .error (.geometry name (.noZones capacity))
    else if count ≤ zoneLimit then .ok count
    else .error (.geometry name (.tooManyZones count))

/-- Gives a device its zone size, and with it its number of zones. -/
def withZoneSize (d : Backing) (zoneSectors : Nat) : Except Error Backing :=
  match zoneCountFor d.name d.capacity zoneSectors with
  | .error e => .error e
  | .ok count => .ok { d with zoneCount := count, zoneSectors := zoneSectors }

/-- Zone size in blocks. -/
def zoneBlocks (d : Backing) : Nat := sectorsToBlocks d.zoneSectors

/-! ## Opening -/

/-- Is the path a block device? A plain file is none, but does where files are allowed. -/
def isBlockDevice (s : Storage) (config : Config) (path : String) : Except Error Bool :=
  match s.stat path with
  | .error e => .error (.os path "stat" e)
  | .ok .blockDevice => .ok true
  | .ok .regular => if config.allowFiles then .ok false else .error (.notABlockDevice path)
  | .ok .other => .error (.notABlockDevice path)

/-- Resolves a path, to its canonical form. -/
def locate (s : Storage) (path : String) : Except Error String :=
  match s.canonicalPath path with
  | .error e => .error (.os path "resolve path" e)
  | .ok canonical => .ok canonical

/-- Refuses a device with content. -/
def refuseContent (s : Storage) (path : String) : Except Error Unit := do
  match ← Probe.content? s path with
  | some content => throw (.existingContent path content)
  | none => return

/-- Refuses a device in the mount table. -/
def refuseMounted (s : Storage) (config : Config) (path : String) : Except Error Unit := do
  if ← MountTable.isMounted s config.mountTable path then
    throw (.deviceMounted path)

/-- Refuses a device with a holder. -/
def refuseHeld (s : Storage) (config : Config) (path : String) : Except Error Unit := do
  match ← Sysfs.holder? s config.sysfsRoot (Path.baseName path) with
  | some holder => throw (.deviceBusy path holder)
  | none => return

/-- The bytes of an open device. -/
def byteCapacity (s : Storage) (isBlock : Bool) (h : Handle) : Except Errno Nat :=
  if isBlock then s.blockCapacity h else (s.imageOf h).map Image.size

/-- Finds out what an open device is. A zoned device brings its zone size with it. -/
def classify (s : Storage) (config : Config) (isBlock : Bool) (h : Handle) (path : String) :
    Except Error Backing := do
  let name := Path.baseName path
  let model ← if isBlock then Sysfs.model s config.sysfsRoot name else pure Model.regular
  match byteCapacity s isBlock h with
  | .error e => throw (.os path "get capacity" e)
  | .ok bytes =>
    let d : Backing :=
      { name, model, capacity := bytes / bytesPerSector, zoneCount := 0, blockOffset := 0,
        path, handle := some h, zoneSectors := 0 }
    if model.isZoned then
      let zoneSectors ← Sysfs.zoneSectors s config.sysfsRoot name
      if validZoneSize zoneSectors then d.withZoneSize zoneSectors
      else throw (.zoneSizeInvalid name zoneSectors)
    else
      return d

/-- Opens a device. -/
def openAt (s : Storage) (purpose : Purpose) (overwrite : Bool) (config : Config)
    (given : String) : Except Error Backing := do
  let path ← locate s given
  let isBlock ← isBlockDevice s config path
  if purpose = .format ∧ overwrite = false then
    refuseContent s path
  refuseMounted s config path
  if isBlock ∧ purpose = .format then
    refuseHeld s config path
  match s.openFile .openWrite path with
  | .error e => throw (.os path "open" e)
  | .ok h => classify s config isBlock h path

/-- What holds the device at a path, if anything does. A mounted device is an error: the mount
holds it. -/
def holder? (s : Storage) (config : Config) (given : String) : Except Error (Option String) := do
  let path ← locate s given
  let isBlock ← isBlockDevice s config path
  refuseMounted s config path
  if isBlock then Sysfs.holder? s config.sysfsRoot (Path.baseName path)
  else return none

/-! ## An open device -/

/-- Lets the device go. -/
def close (d : Backing) : Backing := { d with handle := none }

def isOpen (d : Backing) : Bool := d.handle.isSome

/-- The open file of a device. -/
def file (d : Backing) : Except Error Handle :=
  match d.handle with
  | some h => .ok h
  | none => .error (.os d.path "access closed device" .badHandle)

/-- Where a local block begins, in bytes, if that is a word. -/
def blockStart? (block : Nat) : Option Nat := Word.mul? block bytesPerBlock

/-- The error for a block that was not moved whole. -/
def short (d : Backing) (direction : Direction) (global moved : Nat) (errno : Option Errno) :
    Error :=
  .shortTransfer d.name direction global moved errno

/-- Reads a block by its local number; errors give its global one. -/
def readBlock (s : Storage) (d : Backing) (block global : Nat) : Except Error (List UInt8) :=
  match blockStart? block with
  | none => .error (.broken .product)
  | some start =>
    match d.file with
    | .error e => .error e
    | .ok h =>
      match s.readAt h start bytesPerBlock with
      | .error e => .error (d.short .read global 0 (some e))
      | .ok bytes =>
        if bytes.length = bytesPerBlock then .ok bytes
        else .error (d.short .read global bytes.length none)

/-- Writes a block by its local number; errors give its global one. -/
def writeBlock (s : Storage) (d : Backing) (block global : Nat) (bytes : Array UInt8) :
    Storage × Except Error Unit :=
  match blockStart? block with
  | none => (s, .error (.broken .product))
  | some start =>
    match d.file with
    | .error e => (s, .error e)
    | .ok h =>
      match s.writeAt h start bytes with
      | (s, .error e) => (s, .error (d.short .write global 0 (some e)))
      | (s, .ok count) =>
        if count = bytesPerBlock then (s, .ok ())
        else (s, .error (d.short .write global count none))

/-- Makes written blocks last. -/
def sync (s : Storage) (d : Backing) : Except Error Unit :=
  match d.file with
  | .error e => .error e
  | .ok h =>
    match s.flush h with
    | .error e => .error (.syncFailed d.name e)
    | .ok () => .ok ()

/-- Asks the device for its zones from a local sector on. -/
def reportZones (s : Storage) (d : Backing) (sector : Nat) (buffer : ReportBuffer) :
    Except Error ReportBuffer :=
  match d.file with
  | .error e => .error e
  | .ok h =>
    match s.reportZones h sector buffer with
    | .error e => .error (.os d.path "get zone information" e)
    | .ok buffer => .ok buffer

/-- The device in three lines of words, if its size in bytes is a word. -/
def describe? (d : Backing) : Option (List String) :=
  (Word.mul? d.capacity bytesPerSector).map fun bytes =>
    [d.path ++ s!": {d.capacity} 512-byte sectors (" ++ toString (bytes / bytesPerGiB) ++ " GiB)",
      "  " ++ d.model.text,
      s!"  {d.zoneCount} zones, offset {d.blockOffset}"]

end Backing

end ZonedSet
