/-
ZonedSet.Report.Walk — from the devices' reports to the zones of a set.

The walk goes from sector zero to the end of the address space. At every step it looks up the
device that owns the current sector. A regular device gets one emulated zone; a zoned device is
asked for its zones from there on, and every zone of its answer is checked and taken over.

Nothing is assumed of the answers. A device is a function of all earlier queries (`Reporter`), so
it may repeat zones, skip some, go backwards or contradict itself. What keeps the walk finite is
the number of zones that the devices' sizes allow: a step that goes on has taken at least one
zone, and no zone is taken beyond that number (`takeZones_grows`, `emulateZone_grows`).

The walk goes on from where the zone taken last ends. The check of a reported zone does not see
whether that is a word, and if it is none there is no sector to go on from, and no result.
-/
import ZonedSet.Error
import ZonedSet.Member
import ZonedSet.Layout
import ZonedSet.Report.Buffer

namespace ZonedSet

/-! ## Queries -/

/-- A device, by its place in the set, is asked for its zones from a local sector on. -/
structure Query where
  device : Nat
  sector : Nat
  deriving DecidableEq, Repr, Inhabited

/-- How the devices answer: a function of the queries so far, the latest first, of the query, and
of the prepared buffer. -/
abbrev Reporter := List Query → Query → ReportBuffer → Except Error ReportBuffer

/-! ## One reported zone -/

/-- Checks a reported zone and moves it into the global address space. `index` is the number that
it would get, `total` the number of zones that the set may have. -/
def checkZone (dev : Member) (index total zoneSectors : Nat) (raw : RawZone) :
    Except Error Zone :=
  let refuse (detail : Mismatch) : Except Error Zone := .error (.geometry dev.name detail)
  match Word.add? raw.start raw.length with
  | none => refuse (.zoneStart index raw.start)
  | some localStop =>
    if raw.length = 0 ∨ (raw.length ≠ zoneSectors ∧ localStop ≠ dev.capacity) then
      refuse (.zoneSize index raw.length zoneSectors)
    else if raw.effectiveCapacity < raw.length then
      refuse (.zoneCapacity index raw.effectiveCapacity raw.length)
    else if total ≤ index then refuse (.zoneStart index raw.start)
    else
      match ZoneCondition.ofCode? raw.conditionCode with
      | none => refuse (.zoneCondition index raw.conditionCode)
      | some condition =>
        match Word.add? raw.start dev.sectorOffset with
        | none => refuse (.zoneStart index raw.start)
        | some start =>
          let zone (writePointer : Option Nat) : Zone :=
            { start, length := raw.length, capacity := raw.effectiveCapacity, writePointer,
              type := ZoneType.ofCode raw.typeCode, condition, needsReset := raw.reset,
              nonSequential := raw.nonSequential }
          if ZoneType.ofCode raw.typeCode = .conventional then .ok (zone none)
          else
            match Word.add? raw.writePointer dev.sectorOffset with
            | none => refuse (.zoneStart index raw.start)
            | some writePointer => .ok (zone (some writePointer))

/-- A zone that passes the check has a number below the number of zones. -/
theorem checkZone_index_lt {dev : Member} {index total zoneSectors : Nat} {raw : RawZone}
    {z : Zone} (h : checkZone dev index total zoneSectors raw = .ok z) : index < total := by
  unfold checkZone at h
  dsimp only at h
  split at h
  · simp at h
  · split at h
    · simp at h
    · split at h
      · simp at h
      · split at h
        · simp at h
        · omega

/-! ## Taking zones -/

/-- Where the zones taken so far end. -/
def frontier (zones : Array Zone) : Nat := (zones.back?.map Zone.stop).getD 0

/-- Takes one more zone, for the walk to go on from its end. -/
def pushZone (zones : Array Zone) (z : Zone) : Except Error (Array Zone) :=
  match z.stop? with
  | none => .error (.broken .sum)
  | some _ => .ok (zones.push z)

theorem pushZone_eq (zones : Array Zone) (z : Zone) :
    pushZone zones z =
      if z.start + z.length < Word.limit then .ok (zones.push z) else .error (.broken .sum) := by
  rw [pushZone, Zone.stop?, Word.add?]
  by_cases hlt : z.start + z.length < Word.limit
  · simp only [if_pos hlt]
  · simp only [if_neg hlt]

theorem pushZone_eq_ok_iff {zones out : Array Zone} {z : Zone} :
    pushZone zones z = .ok out ↔ z.start + z.length < Word.limit ∧ out = zones.push z := by
  rw [pushZone_eq]
  split
  · rename_i hlt
    rw [Except.ok.injEq, eq_comm, and_iff_right hlt]
  · rename_i hlimit
    simp [hlimit]

/-- Takes over the zones of one answer, in order, up to the first that does not pass. -/
def takeZones (dev : Member) (total zoneSectors : Nat) (zones : Array Zone) :
    List RawZone → Except Error (Array Zone)
  | [] => .ok zones
  | raw :: rest =>
    match checkZone dev zones.size total zoneSectors raw with
    | .error e => .error e
    | .ok z =>
      match pushZone zones z with
      | .error e => .error e
      | .ok more => takeZones dev total zoneSectors more rest

/-- The first zone of an answer has passed the check and ends at a word, if the answer is taken. -/
theorem takeZones_cons_ok {dev : Member} {total zoneSectors : Nat} {zones out : Array Zone}
    {raw : RawZone} {rest : List RawZone}
    (h : takeZones dev total zoneSectors zones (raw :: rest) = .ok out) :
    ∃ z, checkZone dev zones.size total zoneSectors raw = .ok z ∧
      z.start + z.length < Word.limit ∧
      takeZones dev total zoneSectors (zones.push z) rest = .ok out := by
  rw [takeZones] at h
  split at h
  · cases h
  rename_i z hz
  split at h
  · cases h
  rename_i more hmore
  obtain ⟨hfits, rfl⟩ := pushZone_eq_ok_iff.mp hmore
  exact ⟨z, hz, hfits, h⟩

theorem takeZones_size_le {dev : Member} {total zoneSectors : Nat} {zones out : Array Zone}
    {raws : List RawZone} (h : takeZones dev total zoneSectors zones raws = .ok out) :
    zones.size ≤ out.size := by
  induction raws generalizing zones with
  | nil => simp [takeZones] at h; simp [h]
  | cons raw rest ih =>
    obtain ⟨z, -, -, h⟩ := takeZones_cons_ok h
    have := ih h
    rw [Array.size_push] at this
    omega

/-- An answer with a zone in it lets the zones grow, within the number allowed. -/
theorem takeZones_grows {dev : Member} {total zoneSectors : Nat} {zones out : Array Zone}
    {raw : RawZone} {rest : List RawZone}
    (h : takeZones dev total zoneSectors zones (raw :: rest) = .ok out) :
    zones.size < total ∧ zones.size < out.size := by
  obtain ⟨z, hz, -, h⟩ := takeZones_cons_ok h
  have := takeZones_size_le h
  rw [Array.size_push] at this
  exact ⟨checkZone_index_lt hz, by omega⟩

/-- Takes a zone for a regular device, from its local sector `start` on. -/
def emulateZone (dev : Member) (total zoneSectors : Nat) (zones : Array Zone) (start : Nat) :
    Except Error (Array Zone) :=
  match Word.sub? dev.capacity start with
  | none => .error (.broken .difference)
  | some rest =>
    if total ≤ zones.size then
      .error (.geometry dev.name (.zoneStart zones.size (frontier zones)))
    else pushZone zones (.emulated (frontier zones) (min zoneSectors rest))

theorem emulateZone_eq_ok_iff {dev : Member} {total zoneSectors start : Nat}
    {zones out : Array Zone} :
    emulateZone dev total zoneSectors zones start = .ok out ↔
      start ≤ dev.capacity ∧ zones.size < total ∧
        frontier zones + min zoneSectors (dev.capacity - start) < Word.limit ∧
        out = zones.push
          (.emulated (frontier zones) (min zoneSectors (dev.capacity - start))) := by
  by_cases hstart : start ≤ dev.capacity
  · rw [emulateZone, Word.sub?_of_le hstart]
    by_cases hroom : zones.size < total
    · simp [Nat.not_le.mpr hroom, pushZone_eq_ok_iff, hstart, hroom, Zone.emulated]
    · simp [Nat.not_lt.mp hroom, hroom]
  · simp [emulateZone, Word.sub?, hstart]

theorem emulateZone_grows {dev : Member} {total zoneSectors start : Nat} {zones out : Array Zone}
    (h : emulateZone dev total zoneSectors zones start = .ok out) :
    zones.size < total ∧ zones.size < out.size := by
  obtain ⟨-, hroom, -, rfl⟩ := emulateZone_eq_ok_iff.mp h
  simpa using hroom

/-! ## The walk -/

/-- What a walk comes to: the queries it made, the latest first, and its result. -/
structure Walk where
  asked : List Query
  result : Except Error (Array Zone)

/-- The last two checks: the zones are as many as expected, and end where the space ends. -/
def closeWalk (label : String) (total capacity : Nat) (zones : Array Zone) :
    Except Error (Array Zone) :=
  if zones.size ≠ total then .error (.geometry label (.zoneCount total zones.size))
  else if frontier zones ≠ capacity then
    .error (.geometry label (.endSector capacity (frontier zones)))
  else .ok zones

/-- Goes on from the zones taken so far. -/
def walkFrom (label : String) (devices : List Member) (total capacity zoneSectors : Nat)
    (report : Reporter) (zones : Array Zone) (asked : List Query) : Walk :=
  if frontier zones < capacity then
    match Layout.sectorOwner? (devices.map Member.blockOffset) (frontier zones) with
    | none => ⟨asked, .error (.broken .sectorLayout)⟩
    | some (i, start) =>
      match devices[i]? with
      | none => ⟨asked, .error (.broken .sectorLayout)⟩
      | some dev =>
        if dev.model.isZoned then
          match report asked ⟨i, start⟩ (ReportBuffer.prepare start) with
          | .error e => ⟨⟨i, start⟩ :: asked, .error e⟩
          | .ok buffer =>
            match buffer.zones with
            | [] => ⟨⟨i, start⟩ :: asked, closeWalk label total capacity zones⟩
            | raw :: rest =>
              match _h : takeZones dev total zoneSectors zones (raw :: rest) with
              | .error e => ⟨⟨i, start⟩ :: asked, .error e⟩
              | .ok more =>
                walkFrom label devices total capacity zoneSectors report more
                  (⟨i, start⟩ :: asked)
        else
          match _h : emulateZone dev total zoneSectors zones start with
          | .error e => ⟨asked, .error e⟩
          | .ok more => walkFrom label devices total capacity zoneSectors report more asked
  else ⟨asked, closeWalk label total capacity zones⟩
termination_by total - zones.size
decreasing_by
  · have := takeZones_grows _h
    omega
  · have := emulateZone_grows _h
    omega

/-- The capacity of all devices together, in sectors. -/
def totalCapacity (devices : List Member) : Nat :=
  (devices.map Member.capacity).foldr (· + ·) 0

/-- The number of zones of all devices together. -/
def totalZones (devices : List Member) : Nat :=
  (devices.map Member.zoneCount).foldr (· + ·) 0

/-- The zones of a set of devices, which have to lie end to end already, and the queries that it
took. `label` names the set in refusals that concern it as a whole. -/
def collectZones (label : String) (devices : List Member) (zoneSectors : Nat)
    (report : Reporter) : Walk :=
  let capacity := totalCapacity devices
  let total := totalZones devices
  if Word.limit ≤ capacity then ⟨[], .error (.broken .sum)⟩
  else if zoneLimit < total then ⟨[], .error (.geometry label (.tooManyZones total))⟩
  else walkFrom label devices total capacity zoneSectors report #[] []

end ZonedSet
