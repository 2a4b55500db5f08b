/-
ZonedSet.Layout — which device of a set owns a block or a sector, and which zone holds a block.

The devices of a set lie end to end in one address space, in the order given. Each owns the blocks
from its own offset up to the next device's. A look-up takes the last device whose offset is low
enough, so devices with an equal offset leave the blocks to the last of them.

The zone of a block is searched for by halving. The search computes where zones end, and there is no
answer if it comes to a zone whose end is no word.
-/
import ZonedSet.Error

namespace ZonedSet.Layout

/-! ## Devices -/

/-- The last offset in the list that is at most `n`: its index, and the distance from it to `n`. -/
def owner? (n : Nat) : List Nat → Option (Nat × Nat)
  | [] => none
  | offset :: rest =>
    match owner? n rest with
    | some (i, l) => some (i + 1, l)
    | none => if offset ≤ n then some (0, n - offset) else none

/-- The device that owns a global block, and the block's number within it. -/
def blockOwner? (blockOffsets : List Nat) (block : Nat) : Option (Nat × Nat) :=
  owner? block blockOffsets

/-- The device that owns a global sector, and the sector's number within it. -/
def sectorOwner? (blockOffsets : List Nat) (sector : Nat) : Option (Nat × Nat) :=
  owner? sector (blockOffsets.map blocksToSectors)

/-- What an owner's index and local number say about the offsets. -/
theorem owner?_eq_some {n i l : Nat} {offsets : List Nat} (h : owner? n offsets = some (i, l)) :
    ∃ o, offsets[i]? = some o ∧ o + l = n := by
  induction offsets generalizing i l with
  | nil => simp [owner?] at h
  | cons o rest ih =>
    rw [owner?] at h
    split at h
    · rename_i j m hm
      obtain ⟨rfl, rfl⟩ : j + 1 = i ∧ m = l := by simpa using h
      simpa using ih hm
    · split at h
      · obtain ⟨rfl, rfl⟩ : 0 = i ∧ n - o = l := by simpa using h
        exact ⟨o, by simp, by omega⟩
      · simp at h

/-! ## Zones -/

/-- Is there a zone at the index that is over at a sector? -/
def isOver (zones : Array Zone) (sector i : Nat) : Except Breach Bool :=
  match zones[i]? with
  | none => .ok false
  | some z =>
    match z.stop? with
    | none => .error .sum
    | some stop => .ok (stop ≤ sector)

/-- Halves the zones `base … base + size - 1` until one is left, always keeping the half in which
zones stop being over at `sector`; answers the index of the first zone that is not over. -/
def bisect (zones : Array Zone) (sector base size : Nat) : Except Breach Nat :=
  if size ≤ 1 then do
    return if ← isOver zones sector base then base + 1 else base
  else do
    let half := size / 2
    if ← isOver zones sector (base + half) then bisect zones sector (base + half) (size - half)
    else bisect zones sector base (size - half)
termination_by size
decreasing_by all_goals omega

/-- The index of the zone that holds a global block; `none` past the last zone and in a gap. The
zones have to be in ascending order and apart from each other. -/
def zoneIndex? (zones : Array Zone) (block : Nat) : Except Breach (Option Nat) := do
  let sector := blocksToSectors block
  let i ← bisect zones sector 0 zones.size
  match zones[i]? with
  | some z => return if z.start ≤ sector then some i else none
  | none => return none

/-- The number of the zone that holds a global block. Zone numbers are 32-bit words. -/
def zoneNumber? (zones : Array Zone) (block : Nat) : Except Breach (Option UInt32) := do
  return (← zoneIndex? zones block).map .ofNat

end ZonedSet.Layout
