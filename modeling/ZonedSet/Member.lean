/-
ZonedSet.Member — a backing device, as its set sees it.
-/
import ZonedSet.Units

namespace ZonedSet

/-- The zone model of a device. -/
inductive Model where
  /-- No zones of its own; they are emulated. -/
  | regular
  /-- Zoned, and tolerates writes in any order. -/
  | hostAware
  /-- Zoned, and refuses writes away from the write pointer. -/
  | hostManaged
  deriving DecidableEq, Repr, Inhabited

namespace Model

/-- Does the device have zones of its own? -/
def isZoned : Model → Bool
  | .regular => false
  | _ => true

/-- The model, in words. -/
def text : Model → String
  | .regular => "Regular block device"
  | .hostAware => "Host-aware device"
  | .hostManaged => "Host-managed device"

end Model

/-- The largest number of zones that a device, or a set, may have: zone numbers are 32-bit words. -/
def zoneLimit : Nat := 4294967295

/-- What the address space and the zones of a set depend on, for one device. -/
structure Member where
  /-- Name, like `sdb`. -/
  name : String
  model : Model
  /-- Capacity in sectors. -/
  capacity : Nat
  /-- The number of zones that the device brings into the set. -/
  zoneCount : Nat
  /-- The first global block that the device owns. -/
  blockOffset : Nat
  deriving DecidableEq, Repr, Inhabited

/-- The first global sector that the device owns. -/
def Member.sectorOffset (m : Member) : Nat := blocksToSectors m.blockOffset

end ZonedSet
