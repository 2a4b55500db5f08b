/-
ZonedSet.Proofs.Walk.Tiling — when the zones of a set cover its address space.

The walk takes its next position from the zone it took last, and the check of a descriptor does
not look at where the zone begins. So a walk that gives zones need not have covered the space: a
device that repeats a zone and leaves another one out gets through. This module gives the exact
condition. The zones cover the space, each sector once, if and only if every answer of the walk
begins at the sector asked for, goes on without a gap or an overlap, and does not run past the end
of the space.

`Tiles` is the recursive form of covering, for a list of extents between two sectors. A tiling is
cut where the list is cut (`tiles_append`), which lets both directions be read off one equivalence
per step (`Step.tiles_iff`), carried along the trace (`Trace.tiles_iff`).
-/
import ZonedSet.Proofs.Walk.Scripted

namespace ZonedSet

/-! ## Extents -/

/-- A run of sectors: where it begins, and how long it is. -/
structure Extent where
  start : Nat
  length : Nat
  deriving DecidableEq, Repr, Inhabited

/-- The sectors of a zone. -/
def Zone.extent (z : Zone) : Extent := ⟨z.start, z.length⟩

/-- The local sectors that a descriptor names. -/
def RawZone.extent (raw : RawZone) : Extent := ⟨raw.start, raw.length⟩

/-- The extents go from one sector to another, each beginning where the one before it ends. -/
def Tiles (first : Nat) : List Extent → (stop : Nat) → Prop
  | [], stop => first = stop
  | e :: rest, stop => e.start = first ∧ Tiles (first + e.length) rest stop

instance decidableTiles : (first : Nat) → (es : List Extent) → (stop : Nat) →
    Decidable (Tiles first es stop)
  | first, [], stop => inferInstanceAs (Decidable (first = stop))
  | first, e :: rest, stop =>
    have := decidableTiles (first + e.length) rest stop
    inferInstanceAs (Decidable (_ ∧ _))

/-- A tiling is cut where the list is cut. -/
theorem tiles_append {first stop : Nat} {es fs : List Extent} :
    Tiles first (es ++ fs) stop ↔ ∃ mid, Tiles first es mid ∧ Tiles mid fs stop := by
  induction es generalizing first with
  | nil => simp [Tiles]
  | cons e rest ih =>
    rw [List.cons_append]
    constructor
    · rintro ⟨hstart, hrest⟩
      obtain ⟨mid, hrest, htail⟩ := ih.mp hrest
      exact ⟨mid, ⟨hstart, hrest⟩, htail⟩
    · rintro ⟨mid, ⟨hstart, hrest⟩, htail⟩
      exact ⟨hstart, ih.mpr ⟨mid, hrest, htail⟩⟩

theorem tiles_singleton {first stop : Nat} {e : Extent} :
    Tiles first [e] stop ↔ e.start = first ∧ first + e.length = stop := Iff.rfl

theorem Tiles.le {first stop : Nat} {es : List Extent} (h : Tiles first es stop) :
    first ≤ stop := by
  induction es generalizing first with
  | nil => exact Nat.le_of_eq h
  | cons e rest ih =>
    have := ih h.2
    omega

/-- Descriptors tile local sectors as the zones that they become tile global ones. -/
theorem tiles_toZone {first stop offset : Nat} {raws : List RawZone} :
    Tiles (first + offset) ((raws.map (·.toZone offset)).map Zone.extent) (stop + offset) ↔
      Tiles first (raws.map RawZone.extent) stop := by
  induction raws generalizing first with
  | nil => simp [Tiles]
  | cons raw rest ih =>
    have hnext : first + offset + raw.length = first + raw.length + offset := by omega
    simp only [List.map_cons, Tiles, Zone.extent, RawZone.extent, RawZone.toZone,
      Nat.add_right_cancel_iff, hnext]
    exact and_congr_right fun _ => ih

/-! ## Covering -/

/-- The zones cover the sectors from zero to the capacity: no sector is skipped, and none lies in
two zones. -/
structure Covers (zones : Array Zone) (capacity : Nat) : Prop where
  first : ∀ z, zones[0]? = some z → z.start = 0
  next : ∀ i z after, zones[i]? = some z → zones[i + 1]? = some after →
    z.start + z.length = after.start
  last : ∀ z, zones.back? = some z → z.start + z.length = capacity

/-- A tiling, said of its places. -/
theorem tiles_iff_getElem? {first stop : Nat} {es : List Extent} (hne : es ≠ []) :
    Tiles first es stop ↔
      (∀ e, es[0]? = some e → e.start = first) ∧
        (∀ (i : Nat) (e after : Extent), es[i]? = some e → es[i + 1]? = some after →
          e.start + e.length = after.start) ∧
        (∀ e, es.getLast? = some e → e.start + e.length = stop) := by
  induction es generalizing first with
  | nil => exact absurd rfl hne
  | cons e rest ih =>
    cases rest with
    | nil =>
      rw [tiles_singleton]
      constructor
      · rintro ⟨rfl, rfl⟩
        simp
      · rintro ⟨hfirst, -, hlast⟩
        have hfirst := hfirst e rfl
        exact ⟨hfirst, hfirst ▸ hlast e rfl⟩
    | cons f rest =>
      have ih := @ih (first + e.length) (by simp)
      constructor
      · rintro ⟨hstart, hrest⟩
        obtain ⟨hfirst, hnext, hlast⟩ := ih.mp hrest
        refine ⟨by simpa using hstart, fun i g after hg hafter => ?_, by simpa using hlast⟩
        cases i with
        | zero =>
          have hf := hfirst f rfl
          simp only [List.getElem?_cons_zero, List.getElem?_cons_succ, Nat.zero_add,
            Option.some.injEq] at hg hafter
          rw [← hg, ← hafter, hf, hstart]
        | succ i => exact hnext i g after (by simpa using hg) (by simpa using hafter)
      · rintro ⟨hfirst, hnext, hlast⟩
        have hstart := hfirst e rfl
        refine ⟨hstart, ih.mpr ⟨fun g hg => ?_, fun i g after hg hafter => ?_, ?_⟩⟩
        · have := hnext 0 e g rfl (by simpa using hg)
          omega
        · exact hnext (i + 1) g after (by simpa using hg) (by simpa using hafter)
        · simpa using hlast

/-- To cover is to tile. -/
theorem covers_iff_tiles {zones : Array Zone} {capacity : Nat} (hne : zones.toList ≠ []) :
    Covers zones capacity ↔ Tiles 0 (zones.toList.map Zone.extent) capacity := by
  rw [tiles_iff_getElem? (by simpa using hne)]
  constructor
  · rintro ⟨hfirst, hnext, hlast⟩
    refine ⟨fun e he => ?_, fun i e after he hafter => ?_, fun e he => ?_⟩
    · rw [List.getElem?_map, Option.map_eq_some_iff] at he
      obtain ⟨z, hz, rfl⟩ := he
      exact hfirst z (by simpa using hz)
    · rw [List.getElem?_map, Option.map_eq_some_iff] at he hafter
      obtain ⟨z, hz, rfl⟩ := he
      obtain ⟨z', hz', rfl⟩ := hafter
      exact hnext i z z' (by simpa using hz) (by simpa using hz')
    · rw [List.getLast?_map, Option.map_eq_some_iff] at he
      obtain ⟨z, hz, rfl⟩ := he
      exact hlast z (by simpa using hz)
  · rintro ⟨hfirst, hnext, hlast⟩
    refine ⟨fun z hz => ?_, fun i z after hz hafter => ?_, fun z hz => ?_⟩
    · exact hfirst z.extent (by simp_all)
    · exact hnext i z.extent after.extent (by simp_all) (by simp_all)
    · exact hlast z.extent (by simp_all)

/-! ## Answers that go on -/

/-- The answer begins at the sector asked for, goes on without a gap or an overlap, and does not
run past the end of the space. -/
def Continues (devices : List Member) (query : Query) (raws : List RawZone) : Prop :=
  ∃ dev stop, devices[query.device]? = some dev ∧
    Tiles query.sector (raws.map RawZone.extent) stop ∧
    dev.sectorOffset + stop ≤ totalCapacity devices

variable {label : String} {devices : List Member} {zoneSectors : Nat} {report : Reporter}

/-- The last zone of a tiling ends where the tiling does. -/
theorem Tiles.last_stop {first stop : Nat} {before : List Zone} {z : Zone}
    (h : Tiles first ((before ++ [z]).map Zone.extent) stop) : z.stop = stop := by
  rw [List.map_append] at h
  obtain ⟨mid, -, hsingle⟩ := tiles_append.mp h
  obtain ⟨hstart, hstop⟩ := tiles_singleton.mp hsingle
  simp only [Zone.extent] at hstart hstop
  rw [Zone.stop, hstart, hstop]

/-- Zones that tile the space so far end at the front. -/
theorem front_eq_of_tiles {passes : List Pass} {stop : Nat}
    (h : Tiles 0 ((zonesOf passes).map Zone.extent) stop) : front passes = stop := by
  rw [front, frontier]
  rcases List.eq_nil_or_concat (zonesOf passes) with hnil | ⟨before, z, hlast⟩
  · rw [hnil] at h ⊢
    exact h
  · rw [hlast, List.concat_eq_append] at h ⊢
    simpa using h.last_stop

/-- **One step.** The zones of the next pass go on from the front, within the space, if and only if
its answer goes on from the sector asked for. An emulated zone always does. -/
theorem Step.tiles_iff (laid : LaidOut devices) {passes : List Pass} {p : Pass}
    (step : Step devices zoneSectors report passes p) :
    (∃ stop, stop ≤ totalCapacity devices ∧
        Tiles (front passes) (p.zones.map Zone.extent) stop) ↔
      ∀ query raws, p.exchange? = some (query, raws) → Continues devices query raws := by
  cases step with
  | @emulated i start dev turn regular inside room fits =>
    have hle := laid.stop_le_total turn.device
    have hlt := (turn.holds laid).1.2
    refine iff_of_true ⟨front passes + min zoneSectors (dev.stop - front passes), ?_, ?_⟩ ?_
    · omega
    · rw [turn.rest_eq laid]
      exact tiles_singleton.mpr ⟨rfl, rfl⟩
    · intro query raws hexchange
      cases hexchange
  | @reported i start dev buffer raws turn zoned answer holds nonempty room takes =>
    obtain ⟨⟨hfront, -⟩, rfl⟩ := turn.holds laid
    have hlocal (stop : Nat) : Tiles (front passes)
        ((raws.map (·.toZone dev.sectorOffset)).map Zone.extent)
          (stop + dev.sectorOffset) ↔
        Tiles (front passes - dev.sectorOffset) (raws.map RawZone.extent) stop := by
      rw [← tiles_toZone, Nat.sub_add_cancel hfront]
    constructor
    · rintro ⟨stop, hle, htiles⟩ query raws' hexchange
      cases hexchange
      have hge := htiles.le
      refine ⟨dev, stop - dev.sectorOffset, turn.device, ?_, by omega⟩
      rw [← hlocal, Nat.sub_add_cancel (by omega)]
      exact htiles
    · intro h
      obtain ⟨other, stop, hother, htiles, hle⟩ := h _ _ rfl
      obtain rfl := turn.device_eq hother
      exact ⟨stop + dev.sectorOffset, by omega, (hlocal stop).mpr htiles⟩

/-- **A run.** The zones so far tile a beginning of the space if and only if every answer so far
goes on from the sector asked for. -/
theorem Trace.tiles_iff (laid : LaidOut devices) {passes : List Pass}
    (trace : Trace devices zoneSectors report passes) :
    (∃ stop, stop ≤ totalCapacity devices ∧
        Tiles 0 ((zonesOf passes).map Zone.extent) stop) ↔
      ∀ p ∈ passes, ∀ query raws, p.exchange? = some (query, raws) →
        Continues devices query raws := by
  induction trace with
  | start => exact iff_of_true ⟨0, Nat.zero_le _, rfl⟩ (by simp)
  | @step passes p trace step ih =>
    rw [zonesOf_append, List.map_append, List.forall_mem_append, ← ih]
    simp only [List.forall_mem_singleton]
    rw [← step.tiles_iff laid]
    constructor
    · rintro ⟨stop, hle, htiles⟩
      obtain ⟨mid, hbefore, hafter⟩ := tiles_append.mp htiles
      have hmid := hafter.le
      rw [front_eq_of_tiles hbefore]
      exact ⟨⟨mid, by omega, hbefore⟩, ⟨stop, hle, hafter⟩⟩
    · rintro ⟨⟨mid, hle, hbefore⟩, ⟨stop, hle', hafter⟩⟩
      rw [front_eq_of_tiles hbefore] at hafter
      exact ⟨stop, hle', tiles_append.mpr ⟨mid, hbefore, hafter⟩⟩

/-- An accepted walk has tiled the whole space as soon as it has tiled any beginning of it. -/
theorem Account.tiles_iff {passes : List Pass} {zones : Array Zone}
    (account : Account devices zoneSectors report passes zones) :
    Tiles 0 (zones.toList.map Zone.extent) (totalCapacity devices) ↔
      ∃ stop, stop ≤ totalCapacity devices ∧
        Tiles 0 ((zonesOf passes).map Zone.extent) stop := by
  rw [account.zones_eq]
  constructor
  · intro h
    exact ⟨_, Nat.le_refl _, h⟩
  · rintro ⟨stop, hle, htiles⟩
    have hfront := front_eq_of_tiles htiles
    have hend := account.frontier_eq
    rw [front, ← account.zones_eq] at hfront
    rw [← hend]
    exact hfront ▸ htiles

/-- **When the zones of a set cover its address space.** They do, each sector once, if and only if
every answer of the walk went on from the sector asked for, without a gap or an overlap, and not
past the end of the space. -/
theorem covers_iff_continues (laid : LaidOut devices) {zones : Array Zone}
    (h : (collectZones label devices zoneSectors report).result = .ok zones) :
    Covers zones (totalCapacity devices) ↔
      ∀ query raws,
        (query, raws) ∈ answers report (collectZones label devices zoneSectors report).asked →
          Continues devices query raws := by
  obtain ⟨passes, account⟩ := exists_account h
  have hanswers : (∀ query raws,
      (query, raws) ∈ answers report (collectZones label devices zoneSectors report).asked →
        Continues devices query raws) ↔
      ∀ p ∈ passes, ∀ query raws, p.exchange? = some (query, raws) →
        Continues devices query raws := by
    rw [collectZones_of_account account, answers_askedIn account.trace]
    simp only [List.mem_filterMap]
    exact ⟨fun h p hp query raws hexchange => h query raws ⟨p, hp, hexchange⟩,
      fun h query raws ⟨p, hp, hexchange⟩ => h p hp query raws hexchange⟩
  rw [hanswers, ← account.trace.tiles_iff laid]
  by_cases hne : zones.toList = []
  · -- Without a zone there is nothing to cover, and nothing was asked.
    refine iff_of_true ⟨by simp_all, by simp_all, by simp_all⟩ ⟨0, Nat.zero_le _, ?_⟩
    rw [← account.zones_eq, hne]
    rfl
  · rw [covers_iff_tiles hne, account.tiles_iff]

theorem covers_iff_continues_cacheAndZoned :
    LaidOut cacheAndZoned ∧
      (collectZones "c+z" cacheAndZoned 256 (.scripted twoBatches)).result =
        .ok cacheAndZonedZones ∧
      (Covers cacheAndZonedZones (totalCapacity cacheAndZoned) ↔
        ∀ query raws, (query, raws) ∈ answers (.scripted twoBatches)
            (collectZones "c+z" cacheAndZoned 256 (.scripted twoBatches)).asked →
          Continues cacheAndZoned query raws) :=
  have laid : LaidOut cacheAndZoned := by decide
  ⟨laid, collectZones_cacheAndZoned, covers_iff_continues laid collectZones_cacheAndZoned⟩

/-- A device of two zones. -/
def twoZones : List Member := [⟨"z", .hostManaged, 512, 2, 0⟩]

/-- The device reports its second zone twice, and its first one never. -/
def secondTwice : List (List Descriptor) :=
  [[⟨256, 256, 256, 256, 2, 1, 0, 0⟩, ⟨256, 256, 256, 256, 2, 1, 0, 0⟩]]

def secondTwiceZones : Array Zone :=
  #[⟨256, 256, 256, some 256, .sequentialRequired, .empty, false, false⟩,
    ⟨256, 256, 256, some 256, .sequentialRequired, .empty, false, false⟩]

/-- Zones with the right number and the right end need not cover the space. -/
theorem secondTwice_not_covers :
    LaidOut twoZones ∧ Counted 256 twoZones ∧
      (collectZones "z" twoZones 256 (.scripted secondTwice)).result = .ok secondTwiceZones ∧
      ¬Covers secondTwiceZones (totalCapacity twoZones) := by
  refine ⟨by decide, by decide, ?_, fun h => ?_⟩
  · exact collectZones_of_followScript (show secondTwiceZones.toList =
      zonesOf (followScript twoZones 256 secondTwice 1 []) by decide) (by decide)
  · have := h.first _ rfl
    exact absurd this (by decide)

end ZonedSet
