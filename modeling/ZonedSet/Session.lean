/-
ZonedSet.Session — what a client asks of an open set, one request after the other.

A request may change the stored bytes, by a write, and the set, by closing it. After a set is
closed it still answers for its geometry; moving blocks fails.
-/
import ZonedSet.DeviceSet

namespace ZonedSet

/-- A request to an open set. -/
inductive Request where
  | read (block : Nat)
  | write (block : Nat) (bytes : Array UInt8)
  | sync
  | close
  | isOpen
  /-- Which device owns the block and the sector with this number, and which zone the block. -/
  | locate (n : Nat)
  | checkCacheLayout
  /-- The numbers of the cache zones among the first so many zones. -/
  | cacheZones (limit : Nat)
  /-- The dump lines of the first so many zones. -/
  | zoneLines (limit : Nat)
  deriving Repr, Inhabited

/-- What a set answers. -/
inductive Reply where
  | done
  | failed (e : Error)
  | bytes (content : List UInt8)
  | isOpen (any : Bool) (each : List Bool)
  | located (block sector : Option (String × Nat)) (zone : Option UInt32)
  | indices (zones : List Nat)
  | lines (text : List String)
  deriving Repr, Inhabited

/-- An outcome without a value. -/
def Reply.ofExcept : Except Error Unit → Reply
  | .ok () => .done
  | .error e => .failed e

namespace DeviceSet

/-- The zones of a set with their numbers, up to a limit. -/
def numberedZones (set : DeviceSet) (limit : Nat) : List (Zone × Nat) :=
  (set.zones.toList.take limit).zipIdx

/-- The name of the device that an owner look-up found, with the local number. -/
def named (owner : Option (Backing × Nat)) : Option (String × Nat) :=
  owner.map fun (d, l) => (d.name, l)

/-- Answers a request. -/
def serve (s : Storage) (set : DeviceSet) : Request → Storage × DeviceSet × Reply
  | .read block =>
    (s, set, match set.readBlock s block with
      | .ok content => .bytes content
      | .error e => .failed e)
  | .write block bytes =>
    match set.writeBlock s block bytes with
    | (s, outcome) => (s, set, .ofExcept outcome)
  | .sync => (s, set, .ofExcept (set.sync s))
  | .close => (s, set.close, .isOpen set.close.isOpen [])
  | .isOpen => (s, set, .isOpen set.isOpen (set.devices.map Backing.isOpen))
  | .locate n =>
    (s, set, match set.zoneNumber? n with
      | .ok zone => .located (named (set.blockOwner? n)) (named (set.sectorOwner? n)) zone
      | .error breach => .failed (.broken breach))
  | .checkCacheLayout => (s, set, .ofExcept set.checkCacheLayout)
  | .cacheZones limit =>
    (s, set, .indices (((set.numberedZones limit).filter (set.isCacheZone ·.1)).map (·.2)))
  | .zoneLines limit =>
    (s, set, .lines ((set.numberedZones limit).filterMap fun (z, id) => set.dumpLine? id z))

/-- Answers requests one after the other. -/
def serveAll (s : Storage) (set : DeviceSet) : List Request → Storage × DeviceSet × List Reply
  | [] => (s, set, [])
  | r :: rest =>
    match set.serve s r with
    | (s, set, reply) =>
      match set.serveAll s rest with
      | (s, set, replies) => (s, set, reply :: replies)

end DeviceSet

end ZonedSet
