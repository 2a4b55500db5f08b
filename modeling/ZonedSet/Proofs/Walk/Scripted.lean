/-
ZonedSet.Proofs.Walk.Scripted — devices that answer from a script.

A script lists the answers to the queries of a walk, in order, as the descriptors that go into the
report buffer. `Step.scripted` is the step of a walk over such devices: it goes through the bytes
of the buffer, so a run on fixed devices only has to look at the descriptors.
-/
import ZonedSet.Proofs.Report.Encoding
import ZonedSet.Proofs.Walk.Trace

namespace ZonedSet

/-- The devices answer the queries of a walk with the lists of a script, in order, and with an
empty list when the script is over. -/
def Reporter.scripted (script : List (List Descriptor)) : Reporter := fun earlier _ buffer =>
  .ok (buffer.fill (.ofDescriptors (script.getD earlier.length [])))

instance (dev : Member) (zoneSectors : Nat) (raw : RawZone) :
    Decidable (dev.Accepts zoneSectors raw) :=
  decidable_of_iff (raw.start + raw.length < Word.limit ∧ 0 < raw.length ∧
      (raw.length = zoneSectors ∨ raw.start + raw.length = dev.capacity) ∧
      raw.length ≤ raw.effectiveCapacity ∧ (ZoneCondition.ofCode? raw.conditionCode).isSome ∧
      raw.start + dev.sectorOffset < Word.limit ∧
      (ZoneType.ofCode raw.typeCode ≠ .conventional →
        raw.writePointer + dev.sectorOffset < Word.limit))
    ⟨fun ⟨h1, h2, h3, h4, h5, h6, h7⟩ => ⟨h1, h2, h3, h4, h5, h6, h7⟩,
      fun ⟨h1, h2, h3, h4, h5, h6, h7⟩ => ⟨h1, h2, h3, h4, h5, h6, h7⟩⟩

instance (offset : Nat) (raw : RawZone) : Decidable (raw.FitsAt offset) :=
  inferInstanceAs (Decidable (_ < _))

instance (dev : Member) (zoneSectors : Nat) (raw : RawZone) :
    Decidable (dev.Takes zoneSectors raw) :=
  decidable_of_iff (dev.Accepts zoneSectors raw ∧ raw.FitsAt dev.sectorOffset)
    ⟨fun ⟨h1, h2⟩ => ⟨h1, h2⟩, fun h => ⟨h.toAccepts, h.fits⟩⟩

instance (devices : List Member) (passes : List Pass) (i start : Nat) (dev : Member) :
    Decidable (Turn devices passes i start dev) :=
  decidable_of_iff (front passes < totalCapacity devices ∧
      Layout.sectorOwner? (devices.map Member.blockOffset) (front passes) = some (i, start) ∧
      devices[i]? = some dev)
    ⟨fun ⟨h1, h2, h3⟩ => ⟨h1, h2, h3⟩, fun ⟨h1, h2, h3⟩ => ⟨h1, h2, h3⟩⟩

/-- The step that takes over the next answer of a script. -/
theorem Step.scripted {devices : List Member} {zoneSectors : Nat} {script : List (List Descriptor)}
    {passes : List Pass} {i start : Nat} {dev : Member} {ds : List Descriptor}
    (turn : Turn devices passes i start dev) (zoned : dev.model.isZoned = true)
    (hds : script.getD (askedIn passes).length [] = ds)
    (hfit : 0 < ds.length ∧ ds.length ≤ ReportBuffer.maxZones)
    (room : (zonesOf passes).length + ds.length ≤ totalZones devices)
    (takes : ∀ d ∈ ds, dev.Takes zoneSectors (d.toRawZone true)) :
    Step devices zoneSectors (.scripted script) passes
      (.reported ⟨i, start⟩ (ds.map (·.toRawZone true))
        (ds.map fun d => (d.toRawZone true).toZone dev.sectorOffset)) := by
  have hanswer : Reporter.scripted script (askedIn passes) ⟨i, start⟩ (.prepare start) =
      .ok ((ReportBuffer.prepare start).fill (.ofDescriptors ds)) := by
    rw [Reporter.scripted, hds]
  have step := Step.reported turn zoned hanswer
    (ReportBuffer.zones_fill_ofDescriptors (.prepare start) hfit.2)
    (by simpa using List.length_pos_iff.mp hfit.1) (by simpa using room) (by simpa using takes)
  rw [List.map_map] at step
  exact step

/-! ## Following a script -/

/-- The next pass of a walk over a script, if the walk goes on. -/
def nextScripted? (devices : List Member) (zoneSectors : Nat) (script : List (List Descriptor))
    (passes : List Pass) : Option Pass :=
  match Layout.sectorOwner? (devices.map Member.blockOffset) (front passes) with
  | none => none
  | some (i, start) =>
    match devices[i]? with
    | none => none
    | some dev =>
      let ds := script.getD (askedIn passes).length []
      if ¬Turn devices passes i start dev then none
      else if dev.model.isZoned then
        if (0 < ds.length ∧ ds.length ≤ ReportBuffer.maxZones) ∧
            (zonesOf passes).length + ds.length ≤ totalZones devices ∧
            ∀ d ∈ ds, dev.Takes zoneSectors (d.toRawZone true) then
          some (.reported ⟨i, start⟩ (ds.map (·.toRawZone true))
            (ds.map fun d => (d.toRawZone true).toZone dev.sectorOffset))
        else none
      else if start ≤ dev.capacity ∧ (zonesOf passes).length < totalZones devices ∧
          front passes + min zoneSectors (dev.capacity - start) < Word.limit then
        some (.emulated i (.emulated (front passes) (min zoneSectors (dev.capacity - start))))
      else none

/-- At most `fuel` passes more. -/
def followScript (devices : List Member) (zoneSectors : Nat) (script : List (List Descriptor)) :
    (fuel : Nat) → List Pass → List Pass
  | 0, passes => passes
  | fuel + 1, passes =>
    match nextScripted? devices zoneSectors script passes with
    | none => passes
    | some p => followScript devices zoneSectors script fuel (passes ++ [p])

variable {devices : List Member} {zoneSectors : Nat} {script : List (List Descriptor)}

theorem step_of_nextScripted? {passes : List Pass} {p : Pass}
    (h : nextScripted? devices zoneSectors script passes = some p) :
    Step devices zoneSectors (.scripted script) passes p := by
  unfold nextScripted? at h
  split at h
  · cases h
  rename_i i start howner
  split at h
  · cases h
  rename_i dev hdev
  dsimp only at h
  split at h
  · cases h
  rename_i turn
  have turn : Turn devices passes i start dev := Decidable.not_not.mp turn
  split at h
  · rename_i zoned
    split at h
    · rename_i hds
      cases h
      exact .scripted turn zoned rfl hds.1 hds.2.1 hds.2.2
    · cases h
  · rename_i regular
    split at h
    · rename_i hzone
      cases h
      exact .emulated turn (by simpa using regular) hzone.1 hzone.2.1 hzone.2.2
    · cases h

/-- Following a script is walking. -/
theorem trace_followScript (fuel : Nat) {passes : List Pass}
    (trace : Trace devices zoneSectors (.scripted script) passes) :
    Trace devices zoneSectors (.scripted script)
      (followScript devices zoneSectors script fuel passes) := by
  induction fuel generalizing passes with
  | zero => exact trace
  | succ fuel ih =>
    rw [followScript]
    split
    · exact trace
    · rename_i p hp
      exact ih (trace.step (step_of_nextScripted? hp))

/-- A script that is followed to the end of the space is the account of a walk. -/
theorem account_of_followScript {fuel : Nat} {zones : Array Zone}
    (hzones : zones.toList = zonesOf (followScript devices zoneSectors script fuel []))
    (hend : totalCapacity devices < Word.limit ∧ totalZones devices ≤ zoneLimit ∧
      zones.size = totalZones devices ∧ frontier zones = totalCapacity devices) :
    Account devices zoneSectors (.scripted script)
      (followScript devices zoneSectors script fuel []) zones :=
  ⟨trace_followScript fuel .start, hzones, hend.1, hend.2.1, hend.2.2.1, hend.2.2.2⟩

theorem collectZones_of_followScript {label : String} {fuel : Nat} {zones : Array Zone}
    (hzones : zones.toList = zonesOf (followScript devices zoneSectors script fuel []))
    (hend : totalCapacity devices < Word.limit ∧ totalZones devices ≤ zoneLimit ∧
      zones.size = totalZones devices ∧ frontier zones = totalCapacity devices) :
    (collectZones label devices zoneSectors (.scripted script)).result = .ok zones := by
  rw [collectZones_of_account (account_of_followScript hzones hend)]

/-- The walk over a script ends with an answer that it does not take over. -/
theorem collectZones_of_refused {label : String} {fuel i start : Nat} {dev : Member}
    {passes : List Pass} {ds : List Descriptor} {e : Error}
    (hpasses : followScript devices zoneSectors script fuel [] = passes)
    (hcapacity : totalCapacity devices < Word.limit) (htotal : totalZones devices ≤ zoneLimit)
    (turn : Turn devices passes i start dev) (zoned : dev.model.isZoned = true)
    (hds : script.getD (askedIn passes).length [] = ds) (hfit : ds.length ≤ ReportBuffer.maxZones)
    (refused : takeZones dev (totalZones devices) zoneSectors (zonesOf passes).toArray
      (ds.map (·.toRawZone true)) = .error e) :
    collectZones label devices zoneSectors (.scripted script) =
      ⟨⟨i, start⟩ :: askedIn passes, .error e⟩ := by
  have trace : Trace devices zoneSectors (.scripted script) passes :=
    hpasses ▸ trace_followScript fuel .start
  have hanswer : Reporter.scripted script (askedIn passes) ⟨i, start⟩ (.prepare start) =
      .ok ((ReportBuffer.prepare start).fill (.ofDescriptors ds)) := by
    rw [Reporter.scripted, hds]
  rw [collectZones_eq_walkOn hcapacity htotal, walkOn_of_trace label trace]
  exact walkOn_refused turn zoned hanswer
    (ReportBuffer.zones_fill_ofDescriptors (.prepare start) hfit) refused

/-! ## A run

A regular device of 400 sectors, and behind it a zoned device of 600. The zoned device reports a
conventional zone and one whose capacity it does not tell, and upon the second query a short last
zone. -/

def cacheAndZoned : List Member :=
  [⟨"c", .regular, 400, 2, 0⟩, ⟨"z", .hostManaged, 600, 3, 50⟩]

def twoBatches : List (List Descriptor) :=
  [[⟨0, 256, 256, 256, 1, 0, 0, 0⟩, ⟨256, 256, 300, 0, 2, 2, 1, 0⟩],
    [⟨512, 88, 512, 88, 2, 1, 0, 0⟩]]

def cacheAndZonedZones : Array Zone :=
  #[.emulated 0 256, .emulated 256 144,
    ⟨400, 256, 256, none, .conventional, .notWritePointer, false, false⟩,
    ⟨656, 256, 256, some 700, .sequentialRequired, .implicitOpen, false, true⟩,
    ⟨912, 88, 88, some 912, .sequentialRequired, .empty, false, false⟩]

theorem collectZones_cacheAndZoned :
    (collectZones "c+z" cacheAndZoned 256 (.scripted twoBatches)).result =
      .ok cacheAndZonedZones :=
  collectZones_of_followScript (show cacheAndZonedZones.toList =
    zonesOf (followScript cacheAndZoned 256 twoBatches 4 []) by decide) (by decide)

end ZonedSet
