/-
ZonedSet.Proofs.Opening.CacheZones — which zones are taken for those of the cache.

With a cache device in front, its zones are the emulated ones: the walk makes them up for the span
of that device, and moves every descriptor of the zoned devices past it (`Step.cache_or_reported`).
A zone is taken for a cache zone, however, by its type, and the type of an emulated zone is also
that of a descriptor whose type has no meaning. Such a descriptor passes all checks.

So the zones taken for cache zones are those of the cache and the reported ones without a type. They
are just those of the cache if and only if every descriptor that the walk gets has a type
(`DeviceSet.openAt_cacheZones`).
-/
import ZonedSet.Proofs.Layout.Nesting
import ZonedSet.Proofs.Walk.Contribution

namespace ZonedSet

/-! ## A cache and zoned devices -/

/-- The first device is a regular one, for the cache, and the others are zoned. -/
structure CacheLayout (devices : List Member) (cache : Member) : Prop where
  first : devices[0]? = some cache
  regular : cache.model.isZoned = false
  zoned : ∀ i dev, 0 < i → devices[i]? = some dev → dev.model.isZoned = true

variable {label : String} {devices : List Member} {zoneSectors : Nat} {report : Reporter}
  {passes : List Pass} {p : Pass} {cache : Member} {z : Zone}

/-- The span of the cache begins at zero. -/
theorem CacheLayout.stop_eq (layout : CacheLayout devices cache) (laid : LaidOut devices) :
    cache.stop = cache.capacity := by
  have hoffset := laid.sectorOffset_eq layout.first
  rw [List.take_zero, totalCapacity_nil] at hoffset
  rw [Member.stop, hoffset, Nat.zero_add]

/-- The spans of the others begin after it. -/
theorem CacheLayout.capacity_le (layout : CacheLayout devices cache) (laid : LaidOut devices)
    {i : Nat} {dev : Member} (hi : devices[i]? = some dev) (zoned : dev.model.isZoned = true) :
    cache.capacity ≤ dev.sectorOffset := by
  have hpos : 0 < i := by
    refine Nat.pos_of_ne_zero fun hzero => ?_
    rw [hzero, layout.first, Option.some.injEq] at hi
    rw [← hi, layout.regular] at zoned
    cases zoned
  rw [← layout.stop_eq laid]
  exact laid.stop_le layout.first hi hpos

/-! ## Where a zone comes from -/

theorem Zone.isUnknown_emulated (start length : Nat) :
    (Zone.emulated start length).isUnknown = true := rfl

theorem Zone.isUnknown_iff : z.isUnknown = true ↔ z.type = .unknown := by simp [Zone.isUnknown]

/-- A zone without a type has a write pointer if it is reported, and none if it is emulated. -/
theorem RawZone.toZone_ne_emulated (raw : RawZone) (offset start length : Nat) :
    raw.toZone offset ≠ .emulated start length := by
  intro h
  have htype : ZoneType.ofCode raw.typeCode = .unknown := congrArg Zone.type h
  have hpointer := congrArg Zone.writePointer h
  simp [RawZone.toZone, Zone.emulated, htype] at hpointer

/-- The zone is a descriptor that a zoned device gave in one of these answers. -/
def ReportedAs (devices : List Member) (exchanges : List (Query × List RawZone)) (raw : RawZone)
    (z : Zone) : Prop :=
  ∃ query raws dev, (query, raws) ∈ exchanges ∧ raw ∈ raws ∧
    devices[query.device]? = some dev ∧ dev.model.isZoned = true ∧ z = raw.toZone dev.sectorOffset

/-- **One step.** It takes emulated zones from within the span of the cache, and descriptors from
behind it. -/
theorem Step.cache_or_reported (laid : LaidOut devices) (layout : CacheLayout devices cache)
    (step : Step devices zoneSectors report passes p) (hz : z ∈ p.zones) :
    (z.start < cache.capacity ∧ z = .emulated z.start z.length) ∨
      (cache.capacity ≤ z.start ∧ ∃ raw, ReportedAs devices p.exchange?.toList raw z) := by
  cases step with
  | @emulated i start dev turn regular inside room fits =>
    obtain rfl := List.mem_singleton.mp hz
    have hzero : i = 0 := by
      refine Nat.eq_zero_of_not_pos fun hpos => ?_
      rw [layout.zoned i dev hpos turn.device] at regular
      cases regular
    rw [hzero] at turn
    obtain rfl := turn.device_eq layout.first
    have hfront := (turn.holds laid).1.2
    rw [layout.stop_eq laid] at hfront
    exact .inl ⟨hfront, rfl⟩
  | @reported i start dev buffer raws turn zoned answer holds nonempty room takes =>
    obtain ⟨raw, hraw, rfl⟩ := List.mem_map.mp hz
    have hle := layout.capacity_le laid turn.device zoned
    refine .inr ⟨Nat.le_trans hle (Nat.le_add_left _ _), raw, ?_⟩
    exact ⟨_, raws, dev, List.mem_singleton_self _, hraw, turn.device, zoned, rfl⟩

/-- Every descriptor of a step becomes a zone of it, behind the cache. -/
theorem Step.exists_zone (laid : LaidOut devices) (layout : CacheLayout devices cache)
    (step : Step devices zoneSectors report passes p) {query : Query} {raws : List RawZone}
    (hexchange : p.exchange? = some (query, raws)) {raw : RawZone} (hraw : raw ∈ raws) :
    ∃ z ∈ p.zones, cache.capacity ≤ z.start ∧ z.type = ZoneType.ofCode raw.typeCode := by
  cases step with
  | emulated => cases hexchange
  | @reported i start dev buffer raws turn zoned answer holds nonempty room takes =>
    cases hexchange
    have hle := layout.capacity_le laid turn.device zoned
    exact ⟨_, List.mem_map_of_mem hraw, Nat.le_trans hle (Nat.le_add_left _ _), rfl⟩

/-! ## The zones of a walk -/

section

variable {zones : Array Zone} (laid : LaidOut devices) (layout : CacheLayout devices cache)
  (account : Account devices zoneSectors report passes zones)
include laid layout account

/-- **A run.** Every zone is emulated for the cache, or reported from behind it. -/
theorem Account.cache_or_reported (hz : z ∈ zones.toList) :
    (z.start < cache.capacity ∧ z = .emulated z.start z.length) ∨
      (cache.capacity ≤ z.start ∧
        ∃ raw, ReportedAs devices (answers report (askedIn passes)) raw z) := by
  obtain ⟨p, hp, hz, earlier, step⟩ := account.exists_step hz
  refine (step.cache_or_reported laid layout hz).imp_right fun ⟨hle, raw, hreported⟩ => ?_
  obtain ⟨query, raws, dev, hexchange, hreported⟩ := hreported
  refine ⟨hle, raw, query, raws, dev, ?_, hreported⟩
  rw [answers_askedIn account.trace]
  exact List.mem_filterMap.mpr ⟨p, hp, by simpa using hexchange⟩

/-- Every descriptor of an answer became a zone. -/
theorem Account.exists_zone {query : Query} {raws : List RawZone} {raw : RawZone}
    (hexchange : (query, raws) ∈ answers report (askedIn passes)) (hraw : raw ∈ raws) :
    ∃ z ∈ zones.toList, cache.capacity ≤ z.start ∧ z.type = ZoneType.ofCode raw.typeCode := by
  rw [answers_askedIn account.trace] at hexchange
  obtain ⟨p, hp, hexchange⟩ := List.mem_filterMap.mp hexchange
  obtain ⟨earlier, step⟩ := account.trace.exists_step hp
  obtain ⟨z, hz, hzone⟩ := step.exists_zone laid layout hexchange hraw
  rw [account.zones_eq]
  exact ⟨z, mem_zonesOf.mpr ⟨p, hp, hz⟩, hzone⟩

/-- The emulated zones are those that begin in the cache. -/
theorem Account.start_lt_iff (hz : z ∈ zones.toList) :
    z.start < cache.capacity ↔ z = .emulated z.start z.length := by
  rcases account.cache_or_reported laid layout hz with ⟨hlt, hemulated⟩ | ⟨hle, raw, hreported⟩
  · exact iff_of_true hlt hemulated
  · refine iff_of_false (Nat.not_lt.mpr hle) fun hemulated => ?_
    obtain ⟨query, raws, dev, -, -, -, -, hzone⟩ := hreported
    exact raw.toZone_ne_emulated dev.sectorOffset z.start z.length (hzone ▸ hemulated)

/-- The zones without a type are those of the cache, and the descriptors without one. -/
theorem Account.isUnknown_iff (hz : z ∈ zones.toList) :
    z.isUnknown = true ↔ z.start < cache.capacity ∨
      ∃ raw, ReportedAs devices (answers report (askedIn passes)) raw z ∧
        ZoneType.ofCode raw.typeCode = .unknown := by
  constructor
  · intro hunknown
    rcases account.cache_or_reported laid layout hz with ⟨hlt, -⟩ | ⟨-, raw, hreported⟩
    · exact .inl hlt
    · refine .inr ⟨raw, hreported, ?_⟩
      obtain ⟨query, raws, dev, -, -, -, -, hzone⟩ := hreported
      rwa [hzone, Zone.isUnknown_iff] at hunknown
  · rintro (hlt | ⟨raw, ⟨query, raws, dev, -, -, -, -, hzone⟩, htype⟩)
    · rw [(account.start_lt_iff laid layout hz).mp hlt]
      exact Zone.isUnknown_emulated _ _
    · rw [hzone, Zone.isUnknown_iff]
      exact htype

/-- **The zones without a type are just those of the cache** where every descriptor has one. -/
theorem Account.isUnknown_exact_iff :
    (∀ z ∈ zones.toList, z.isUnknown = true ↔ z.start < cache.capacity) ↔
      ∀ query raws, (query, raws) ∈ answers report (askedIn passes) →
        ∀ raw ∈ raws, ZoneType.ofCode raw.typeCode ≠ .unknown := by
  constructor
  · intro hexact query raws hexchange raw hraw hunknown
    obtain ⟨z, hz, hle, htype⟩ := account.exists_zone laid layout hexchange hraw
    have hlt := (hexact z hz).mp (Zone.isUnknown_iff.mpr (htype.trans hunknown))
    omega
  · intro htyped z hz
    rw [account.isUnknown_iff laid layout hz]
    refine or_iff_left ?_
    rintro ⟨raw, ⟨query, raws, dev, hexchange, hraw, -⟩, hunknown⟩
    exact htyped query raws hexchange raw hraw hunknown

end

/-! ## Cache zones of a set -/

namespace DeviceSet

variable {set : DeviceSet} {options : OpenOptions} {paths : List String} {s : Storage}

/-- The layout of several devices that the check passes. -/
theorem exists_cacheLayout (several : 1 < set.devices.length)
    (hcheck : set.checkCacheLayout = .ok ()) :
    ∃ d, set.devices[0]? = some d ∧ CacheLayout (membersOf set.devices) d.toMember := by
  unfold checkCacheLayout at hcheck
  split at hcheck
  · cases hcheck
  · rename_i only hdevices
    simp [hdevices] at several
  · rename_i first rest _ hdevices
    split at hcheck
    · cases hcheck
    rename_i hregular
    split at hcheck
    · cases hcheck
    rename_i hzoned
    have hfirst : set.devices[0]? = some first := by simp [hdevices]
    refine ⟨first, hfirst, member_getElem? hfirst, by simpa using hregular, ?_⟩
    intro i dev hpos hi
    obtain ⟨d, hd, rfl⟩ := exists_of_member_getElem? hi
    rw [hdevices, List.getElem?_cons, if_neg (by omega)] at hd
    simpa using List.find?_eq_none.mp hzoned d (List.mem_of_getElem? hd)

theorem isCacheZone_of_several (several : 1 < set.devices.length) (z : Zone) :
    set.isCacheZone z = z.isUnknown := if_pos several

/-- Which zones of a walk are taken for cache zones. The emulated ones are those that begin in the
cache. The ones taken for them are these and the descriptors without a type, which are none if and
only if every descriptor of the walk has a type. -/
structure CacheZones (set : DeviceSet) (cache : Backing) (exchanges : List (Query × List RawZone))
    (zones : Array Zone) : Prop where
  emulated_iff : ∀ z ∈ zones.toList,
    z.start < cache.capacity ↔ z = .emulated z.start z.length
  taken_iff : ∀ z ∈ zones.toList, set.isCacheZone z = true ↔ z.start < cache.capacity ∨
    ∃ raw, ReportedAs (membersOf set.devices) exchanges raw z ∧
      ZoneType.ofCode raw.typeCode = .unknown
  exact_iff : (∀ z ∈ zones.toList, set.isCacheZone z = true ↔ z.start < cache.capacity) ↔
    ∀ query raws, (query, raws) ∈ exchanges →
      ∀ raw ∈ raws, ZoneType.ofCode raw.typeCode ≠ .unknown

/-- **Which zones are taken for those of the cache.** A set of several devices is opened, and its
layout is that of a cache. Under any reports that give zones, those of the storage it was opened
from among them, the zones taken for cache zones are those of the first device, and the reported
ones that have no type. -/
theorem openAt_cacheZones (h : openAt s options paths = .ok set)
    (several : 1 < set.devices.length) (hcheck : set.checkCacheLayout = .ok ()) :
    ∃ cache, set.devices[0]? = some cache ∧
      (∃ label, (collectZones label (membersOf set.devices) set.zoneSectors
        (reporter s set.devices)).result = .ok set.zones) ∧
      ∀ label report zones,
        (collectZones label (membersOf set.devices) set.zoneSectors report).result = .ok zones →
          set.CacheZones cache (answers report
            (collectZones label (membersOf set.devices) set.zoneSectors report).asked) zones := by
  obtain ⟨cache, hcache, layout⟩ := exists_cacheLayout several hcheck
  obtain ⟨devices, -, -, hassemble⟩ := exists_assemble_of_openAt h
  obtain ⟨adopted, stages⟩ := exists_stages hassemble
  have laid := (coherent_of_openAt h).laid
  refine ⟨cache, hcache, ⟨_, stages.collected⟩, ?_⟩
  intro label report zones hwalk
  obtain ⟨passes, account⟩ := exists_account hwalk
  rw [collectZones_of_account account]
  exact {
    emulated_iff := fun z hz => account.start_lt_iff laid layout hz
    taken_iff := fun z hz => by
      rw [isCacheZone_of_several several]
      exact account.isUnknown_iff laid layout hz
    exact_iff := by
      simp only [isCacheZone_of_several several]
      exact account.isUnknown_exact_iff laid layout }

/-! ## A descriptor without a type

An image file of sixteen sectors for the cache, and a zoned device of two zones. The first of these
has a type without a meaning. -/

def untypedZone : BlockDevice where
  capacity := .ok 262144
  reportFailure := none
  zones := [⟨0, 256, 0, 256, 0, 1, 0, 0⟩, ⟨256, 256, 256, 256, 2, 1, 0, 0⟩]
  batch := 0
  flags := 1

def fileAndZoned : Storage :=
  ((((Storage.bare.putFile "/a" (.zeros 8192)).putFile "/z" (.zeros 0)).putFile
    "/sys/block/z/queue/zoned" (.ofBytes "host-managed".toUTF8.data)).putFile
    "/sys/block/z/queue/chunk_sectors" (.ofBytes "256".toUTF8.data)).attachBlock "/z" untypedZone

def untypedZ : Backing := ⟨⟨"z", .hostManaged, 512, 2, 0⟩, "/z", some ⟨6, "/z"⟩, 256⟩

def untypedSet : DeviceSet where
  label := "a+z"
  devices := [
    { imageA with zoneCount := 1, zoneSectors := 256 },
    { untypedZ with blockOffset := 2 }]
  capacity := 528
  zoneSectors := 256
  zones := #[.emulated 0 16, ⟨16, 256, 256, some 16, .unknown, .empty, false, false⟩,
    ⟨272, 256, 256, some 272, .sequentialRequired, .empty, false, false⟩]

/-- The devices of the set, with their tables. -/
def untypedFleet : List Tabled :=
  [⟨⟨"a", .regular, 16, 1, 0⟩, []⟩, ⟨⟨"z", .hostManaged, 512, 2, 2⟩, untypedZone.table⟩]

theorem stored_untypedZ :
    Backing.Stored fileAndZoned { untypedZ with blockOffset := 2 } untypedZone where
  handle := ⟨_, rfl, rfl⟩
  tiles := by decide
  length_pos := by decide

theorem collectZones_untypedSet :
    (collectZones "a+z" (membersOf untypedSet.devices) 256
      (reporter fileAndZoned untypedSet.devices)).result = .ok untypedSet.zones := by
  have fs : FleetSound 256 untypedFleet := ⟨by decide, by decide, by decide⟩
  have truthful : Truthful untypedFleet (reporter fileAndZoned untypedSet.devices) := by
    refine truthful_reporter fun i t hi zoned => ?_
    match i with
    | 0 =>
      obtain rfl := Option.some.inj hi
      cases zoned
    | 1 =>
      obtain rfl := Option.some.inj hi
      exact ⟨{ untypedZ with blockOffset := 2 }, untypedZone, rfl, stored_untypedZ, rfl, rfl⟩
  exact collectZones_of_expected fs truthful (by decide) (by decide) (by decide)

theorem openAt_fileAndZoned : openAt fileAndZoned inspectFiles ["/a", "/z"] = .ok untypedSet := by
  have hdevices : openDevices fileAndZoned inspectFiles ["/a", "/z"] = .ok [imageA, untypedZ] :=
    eq_ok_of_toOption (by decide +kernel)
  have stages : Stages fileAndZoned none [imageA, untypedZ] (some 8)
      [{ imageA with zoneCount := 1, zoneSectors := 256 }, untypedZ] untypedSet :=
    { chosen := ⟨imageA, [untypedZ], rfl, eq_ok_of_toOption (by decide +kernel)⟩
      adoption := eq_ok_of_toOption (by decide +kernel)
      laid := eq_ok_of_toOption (by decide +kernel)
      collected := collectZones_untypedSet
      capacity_eq := by decide }
  exact openAt_eq_ok_iff.mpr ⟨_, hdevices, stages.assemble_eq (by decide +kernel)⟩

theorem checkCacheLayout_untypedSet : untypedSet.checkCacheLayout = .ok () := by rfl

/-- The zones that the set was opened with, among others. -/
theorem openAt_cacheZones_untypedSet :
    openAt fileAndZoned inspectFiles ["/a", "/z"] = .ok untypedSet ∧
      1 < untypedSet.devices.length ∧ untypedSet.checkCacheLayout = .ok () ∧
      ∃ cache, untypedSet.devices[0]? = some cache ∧
        untypedSet.CacheZones cache (answers (reporter fileAndZoned untypedSet.devices)
          (collectZones "a+z" (membersOf untypedSet.devices) 256
            (reporter fileAndZoned untypedSet.devices)).asked) untypedSet.zones := by
  have several : 1 < untypedSet.devices.length := by decide
  obtain ⟨cache, hcache, -, hall⟩ :=
    openAt_cacheZones openAt_fileAndZoned several checkCacheLayout_untypedSet
  exact ⟨openAt_fileAndZoned, several, checkCacheLayout_untypedSet, cache, hcache,
    hall _ _ _ collectZones_untypedSet⟩

/-- A zone of the zoned device is taken for a cache zone. -/
theorem reported_zone_taken :
    openAt fileAndZoned inspectFiles ["/a", "/z"] = .ok untypedSet ∧
      1 < untypedSet.devices.length ∧ untypedSet.checkCacheLayout = .ok () ∧
      ∃ cache, untypedSet.devices[0]? = some cache ∧
        ∃ z ∈ untypedSet.zones.toList, untypedSet.isCacheZone z = true ∧
          cache.capacity ≤ z.start ∧ z ≠ .emulated z.start z.length :=
  ⟨openAt_fileAndZoned, by decide, checkCacheLayout_untypedSet, _, rfl,
    ⟨16, 256, 256, some 16, .unknown, .empty, false, false⟩, by decide, by decide, by decide,
    by decide⟩

end DeviceSet

end ZonedSet
