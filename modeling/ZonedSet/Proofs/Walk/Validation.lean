/-
ZonedSet.Proofs.Walk.Validation — what the zones of a set are worth, whatever the devices report.

`Guaranteed` collects the guarantees of a walk that gives zones. They come in three kinds. The two
last checks count the zones and place the end of the last one. The check of each descriptor bounds
the zone that it becomes (`Zone.ValidIn`); an emulated zone meets the same bounds because the
device that is next holds the sector at the front. And since an answer is taken over whole or not
at all, no answer of the walk holds a descriptor that would have been refused.
-/
import ZonedSet.Proofs.Walk.Scripted

namespace ZonedSet

/-! ## Valid zones -/

/-- What the walk establishes of a zone that it takes from a device. -/
structure Zone.ValidIn (dev : Member) (zoneSectors : Nat) (emulated : Bool) (z : Zone) : Prop where
  length_pos : 0 < z.length
  /-- No sector of the zone is unwritable. -/
  roomy : z.length ≤ z.capacity
  /-- Only a zone that ends where its device ends may have another length. -/
  length_eq : z.length = zoneSectors ∨ z.start + z.length = dev.stop
  /-- A write pointer is absent from emulated and conventional zones, and from no others. -/
  pointer : z.writePointer = none ↔ emulated = true ∨ z.type = .conventional

def Pass.isEmulated : Pass → Bool
  | emulated _ _ => true
  | reported _ _ _ => false

variable {label : String} {devices : List Member} {zoneSectors : Nat} {report : Reporter}

theorem Member.Accepts.validIn {dev : Member} {raw : RawZone}
    (h : dev.Accepts zoneSectors raw) :
    (raw.toZone dev.sectorOffset).ValidIn dev zoneSectors false where
  length_pos := h.length_pos
  roomy := h.roomy
  length_eq := by
    rcases h.length_eq with hlength | hstop
    · exact .inl hlength
    · right
      simp only [RawZone.toZone, Member.stop]
      omega
  pointer := by simp [RawZone.toZone]

/-- A stretch of a device up to the zone size, or up to the device's end, is a valid zone. -/
theorem emulated_validIn {dev : Member} {sector : Nat} (hholds : dev.Holds sector)
    (hpos : 0 < zoneSectors) :
    (Zone.emulated sector (min zoneSectors (dev.stop - sector))).ValidIn dev zoneSectors true where
  length_pos := by
    have := hholds.2
    simp only [Zone.emulated]
    omega
  roomy := Nat.le_refl _
  length_eq := by
    have := hholds.2
    simp only [Zone.emulated]
    omega
  pointer := by simp [Zone.emulated]

/-- Every step takes valid zones. -/
theorem Step.validIn (laid : LaidOut devices) (hpos : 0 < zoneSectors) {passes : List Pass}
    {p : Pass} (step : Step devices zoneSectors report passes p) :
    ∃ dev, devices[p.device]? = some dev ∧
      ∀ z ∈ p.zones, z.ValidIn dev zoneSectors p.isEmulated := by
  cases step with
  | @emulated i start dev turn regular inside room fits =>
    refine ⟨dev, turn.device, fun z hz => ?_⟩
    obtain rfl := List.mem_singleton.mp hz
    rw [turn.rest_eq laid]
    exact emulated_validIn (turn.holds laid).1 hpos
  | @reported i start dev buffer raws turn zoned answer holds nonempty room takes =>
    refine ⟨dev, turn.device, fun z hz => ?_⟩
    obtain ⟨raw, hraw, rfl⟩ := List.mem_map.mp hz
    exact (takes raw hraw).validIn

/-! ## Answers -/

/-- An answer that the walk goes on from has a descriptor, and only such as are known and roomy. -/
theorem Step.answer_valid {passes : List Pass} {query : Query} {raws : List RawZone}
    {zs : List Zone} (step : Step devices zoneSectors report passes (.reported query raws zs)) :
    raws ≠ [] ∧ ∀ raw ∈ raws, (ZoneCondition.ofCode? raw.conditionCode).isSome ∧
      raw.length ≤ raw.effectiveCapacity := by
  cases step with
  | reported turn zoned answer holds nonempty room takes =>
    exact ⟨nonempty, fun raw hraw => ⟨(takes raw hraw).known, (takes raw hraw).roomy⟩⟩

/-! ## The end of the space -/

theorem LaidOut.capacity_pos (laid : LaidOut devices) (hne : devices ≠ []) :
    0 < totalCapacity devices := by
  cases devices with
  | nil => exact absurd rfl hne
  | cons d rest =>
    have := laid.endToEnd.2.1
    rw [totalCapacity_cons]
    omega

theorem Account.exists_last {passes : List Pass} {zones : Array Zone}
    (account : Account devices zoneSectors report passes zones) (laid : LaidOut devices)
    (hne : devices ≠ []) : ∃ z, zones.back? = some z ∧ z.stop = totalCapacity devices := by
  have hpos := laid.capacity_pos hne
  have hend := account.frontier_eq
  rw [frontier] at hend
  cases hback : zones.back? with
  | none =>
    rw [hback] at hend
    simp at hend
    omega
  | some z =>
    rw [hback] at hend
    exact ⟨z, rfl, by simpa using hend⟩

/-! ## The guarantees -/

/-- What the zones of a set guarantee, together with the queries that they took. -/
structure Guaranteed (devices : List Member) (zoneSectors : Nat) (report : Reporter)
    (asked : List Query) (zones : Array Zone) : Prop where
  size_eq : zones.size = totalZones devices
  /-- Zone numbers are 32-bit words. -/
  size_le : totalZones devices ≤ zoneLimit
  /-- The last zone ends where the space ends. -/
  last : devices ≠ [] → ∃ z, zones.back? = some z ∧ z.stop = totalCapacity devices
  /-- Every zone is valid in the device that the walk took it from. -/
  valid : ∃ passes, Account devices zoneSectors report passes zones ∧
    ∀ p ∈ passes, ∃ dev, devices[p.device]? = some dev ∧
      ∀ z ∈ p.zones, z.ValidIn dev zoneSectors p.isEmulated
  /-- No answer was empty, or held a zone of unknown condition or with too little room. -/
  answered : ∀ query raws, (query, raws) ∈ answers report asked →
    raws ≠ [] ∧ ∀ raw ∈ raws, (ZoneCondition.ofCode? raw.conditionCode).isSome ∧
      raw.length ≤ raw.effectiveCapacity

/-- **A walk that gives zones guarantees them, whatever the devices report.** -/
theorem collectZones_guaranteed (laid : LaidOut devices) (hpos : 0 < zoneSectors)
    {zones : Array Zone}
    (h : (collectZones label devices zoneSectors report).result = .ok zones) :
    Guaranteed devices zoneSectors report
      (collectZones label devices zoneSectors report).asked zones := by
  obtain ⟨passes, account⟩ := exists_account h
  rw [collectZones_of_account account]
  refine ⟨account.size_eq, account.total_le, account.exists_last laid, ⟨passes, account, ?_⟩, ?_⟩
  · intro p hp
    obtain ⟨earlier, step⟩ := account.trace.exists_step hp
    exact step.validIn laid hpos
  · intro query raws hanswer
    obtain ⟨zs, hmem⟩ := (mem_answers account.trace).mp hanswer
    obtain ⟨earlier, step⟩ := account.trace.exists_step hmem
    exact step.answer_valid

theorem collectZones_guaranteed_cacheAndZoned :
    LaidOut cacheAndZoned ∧ 0 < 256 ∧
      (collectZones "c+z" cacheAndZoned 256 (.scripted twoBatches)).result =
        .ok cacheAndZonedZones ∧
      Guaranteed cacheAndZoned 256 (.scripted twoBatches)
        (collectZones "c+z" cacheAndZoned 256 (.scripted twoBatches)).asked cacheAndZonedZones :=
  have laid : LaidOut cacheAndZoned := by decide
  ⟨laid, by decide, collectZones_cacheAndZoned,
    collectZones_guaranteed laid (by decide) collectZones_cacheAndZoned⟩

end ZonedSet
