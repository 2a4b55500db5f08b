/-
ZonedSet.Options — what the caller of the library chooses.
-/

namespace ZonedSet

/-- Where the system's interfaces are found, and what counts as a device. -/
structure Config where
  /-- The root of the sysfs tree. -/
  sysfsRoot : String
  /-- The mount table. -/
  mountTable : String
  /-- Are plain files taken for regular devices? -/
  allowFiles : Bool
  deriving DecidableEq, Repr, Inhabited

/-- The places on a running system. -/
def Config.default : Config := ⟨"/sys", "/proc/mounts", false⟩

/-- What the caller means to do with the devices. -/
inductive Purpose where
  /-- Destructive, so there must be nothing to destroy. -/
  | format
  /-- Harmless. -/
  | inspect
  deriving DecidableEq, Repr, Inhabited

/-- How to open a set of devices. -/
structure OpenOptions where
  purpose : Purpose
  /-- Format even over existing content? -/
  overwrite : Bool
  /-- The zone size to emulate, in sectors, when no device dictates one. -/
  zoneSectors : Option Nat
  /-- The name of the set in messages. -/
  label : Option String
  config : Config
  deriving DecidableEq, Repr, Inhabited

end ZonedSet
