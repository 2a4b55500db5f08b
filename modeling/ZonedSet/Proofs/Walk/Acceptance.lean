/-
ZonedSet.Proofs.Walk.Acceptance — sound devices are accepted, with the zones they have.

A sound device (`Tabled.Sound`) has a table of descriptors that tile it, with zones of the common
size but for a shorter last one. It is truthful (`Truthful`) if it answers a query that is made at
the start of a zone with any number of descriptors from there on. Then the walk gives the zones of
the devices, one device after the other, whatever the length of the answers.

The argument does not follow the devices one by one. The zones to expect tile the whole space
(`EndToEnd.tiles_expected`), so as long as the walk has taken a beginning of them, its front is
where the next one starts, and that tells the device that is next. One step then takes over the
next expected zones, one or more (`exists_step`).
-/
import ZonedSet.Proofs.Walk.Tiling

namespace ZonedSet

/-! ## Devices with tables -/

/-- A device with the descriptors of its zones. Those of a regular device do not matter. -/
structure Tabled where
  device : Member
  table : List RawZone

namespace Tabled

/-- The zones to expect of a device. -/
def zones (zoneSectors : Nat) (t : Tabled) : List Zone :=
  if t.device.model.isZoned then t.table.map (·.toZone t.device.sectorOffset)
  else (List.range t.device.zoneCount).map fun k =>
    .emulated (t.device.sectorOffset + k * zoneSectors)
      (min zoneSectors (t.device.capacity - k * zoneSectors))

/-- The table describes a device that works: its zones lie end to end over the whole device, and
all but the last have the common size. -/
structure Sound (zoneSectors : Nat) (t : Tabled) : Prop where
  tiles : Tiles 0 (t.table.map RawZone.extent) t.device.capacity
  length_pos : ∀ raw ∈ t.table, 0 < raw.length
  length_eq : ∀ raw ∈ t.table, raw.length = zoneSectors ∨
    raw.length ≤ zoneSectors ∧ raw.start + raw.length = t.device.capacity
  known : ∀ raw ∈ t.table, (ZoneCondition.ofCode? raw.conditionCode).isSome
  roomy : ∀ raw ∈ t.table, raw.length ≤ raw.effectiveCapacity
  pointer_lt : ∀ raw ∈ t.table, ZoneType.ofCode raw.typeCode ≠ .conventional →
    raw.writePointer + t.device.sectorOffset < Word.limit

end Tabled

/-- The devices answer from their tables: a query at the start of a zone gets a run of descriptors
from that zone on. How many may depend on all that was asked before, but it is never none. -/
def Truthful (fleet : List Tabled) (report : Reporter) : Prop :=
  ∀ earlier i t j raw, fleet[i]? = some t → t.device.model.isZoned = true →
    t.table[j]? = some raw →
      ∃ buffer, report earlier ⟨i, raw.start⟩ (.prepare raw.start) = .ok buffer ∧
        buffer.zones ≠ [] ∧ buffer.zones <+: t.table.drop j

variable {label : String} {fleet : List Tabled} {zoneSectors : Nat} {report : Reporter}
  {t : Tabled}

/-! ## One device -/

/-- An extent of a tiling lies between its ends. -/
theorem Tiles.between {first stop : Nat} {es : List Extent} (h : Tiles first es stop) {e : Extent}
    (he : e ∈ es) : first ≤ e.start ∧ e.start + e.length ≤ stop := by
  induction es generalizing first with
  | nil => cases he
  | cons f rest ih =>
    obtain ⟨hstart, hrest⟩ := h
    have hle := hrest.le
    rcases List.mem_cons.mp he with rfl | he
    · omega
    · have := ih hrest he
      omega

/-- A tiling by extents of one size, but for a shorter last one, has an extent for each multiple
of the size that lies below its end. -/
theorem Tiles.lt_length_iff {first stop : Nat} {es : List Extent} (h : Tiles first es stop)
    (hpos : ∀ e ∈ es, 0 < e.length)
    (heq : ∀ e ∈ es, e.length = zoneSectors ∨
      e.length ≤ zoneSectors ∧ e.start + e.length = stop) (k : Nat) :
    k < es.length ↔ first + k * zoneSectors < stop := by
  induction es generalizing first k with
  | nil =>
    have : first = stop := h
    simp only [List.length_nil]
    omega
  | cons e rest ih =>
    obtain ⟨hstart, hrest⟩ := h
    obtain ⟨hpos, hposRest⟩ := List.forall_mem_cons.mp hpos
    obtain ⟨heq, heqRest⟩ := List.forall_mem_cons.mp heq
    have hle := hrest.le
    have ih := ih hrest hposRest heqRest
    rw [List.length_cons]
    cases k with
    | zero => omega
    | succ k =>
      have ih := ih k
      rw [Nat.succ_mul]
      rcases heq with heq | ⟨hshort, hend⟩
      · omega
      · omega

/-- A sound table has as many descriptors as the device has zones. -/
theorem Tabled.Sound.length_eq_zoneCount (sound : t.Sound zoneSectors)
    (hcount : pieces? t.device.capacity zoneSectors = some t.device.zoneCount) :
    t.table.length = t.device.zoneCount := by
  have htable : ∀ k, k < t.table.length ↔ k * zoneSectors < t.device.capacity := by
    intro k
    have hiff : k < (t.table.map RawZone.extent).length ↔
        0 + k * zoneSectors < t.device.capacity :=
      sound.tiles.lt_length_iff (by simpa [RawZone.extent] using sound.length_pos)
        (by simpa [RawZone.extent] using sound.length_eq) k
    simpa using hiff
  have hcount := lt_iff_of_pieces? hcount
  have hlength := (htable t.table.length).trans (hcount t.table.length).symm
  have hzones := (htable t.device.zoneCount).trans (hcount t.device.zoneCount).symm
  omega

/-- Emulated zones tile a device as far as they go. -/
theorem tiles_emulated (offset : Nat) {capacity n : Nat}
    (h : ∀ k < n, k * zoneSectors < capacity) :
    Tiles offset (((List.range n).map fun k => Zone.emulated (offset + k * zoneSectors)
      (min zoneSectors (capacity - k * zoneSectors))).map Zone.extent)
      (offset + min (n * zoneSectors) capacity) := by
  induction n with
  | zero => simp [Tiles]
  | succ n ih =>
    have hn := h n (by omega)
    rw [List.range_succ, List.map_append, List.map_append]
    refine tiles_append.mpr ⟨_, ih fun k hk => h k (by omega), ?_⟩
    refine tiles_singleton.mpr ⟨?_, ?_⟩
    · simp only [Zone.extent, Zone.emulated]
      omega
    · simp only [Zone.extent, Zone.emulated, Nat.succ_mul]
      omega

/-- What the later proofs use of a device: its zones to expect are as many as it has, and tile
its span. -/
theorem Tabled.zones_spec (sound : t.device.model.isZoned = true → t.Sound zoneSectors)
    (hcount : pieces? t.device.capacity zoneSectors = some t.device.zoneCount) :
    (t.zones zoneSectors).length = t.device.zoneCount ∧
      Tiles t.device.sectorOffset ((t.zones zoneSectors).map Zone.extent) t.device.stop := by
  rw [Tabled.zones]
  split
  · rename_i zoned
    have sound := sound zoned
    refine ⟨by simpa using sound.length_eq_zoneCount hcount, ?_⟩
    have htiles : Tiles (0 + t.device.sectorOffset)
        ((t.table.map (·.toZone t.device.sectorOffset)).map Zone.extent)
        (t.device.capacity + t.device.sectorOffset) := tiles_toZone.mpr sound.tiles
    rw [Nat.zero_add, Nat.add_comm] at htiles
    exact htiles
  · have hcount := lt_iff_of_pieces? hcount
    refine ⟨by simp, ?_⟩
    have htiles := tiles_emulated t.device.sectorOffset fun k hk => (hcount k).mp hk
    have hall := mt (hcount t.device.zoneCount).mpr (Nat.lt_irrefl _)
    rw [Nat.min_eq_right (by omega)] at htiles
    exact htiles

theorem Tabled.zones_length_pos (sound : t.device.model.isZoned = true → t.Sound zoneSectors)
    (hcount : pieces? t.device.capacity zoneSectors = some t.device.zoneCount) {z : Zone}
    (hz : z ∈ t.zones zoneSectors) : 0 < z.length := by
  rw [Tabled.zones] at hz
  split at hz
  · rename_i zoned
    obtain ⟨raw, hraw, rfl⟩ := List.mem_map.mp hz
    exact (sound zoned).length_pos raw hraw
  · obtain ⟨k, hk, rfl⟩ := List.mem_map.mp hz
    have hlt := (lt_iff_of_pieces? hcount k).mp (List.mem_range.mp hk)
    have hpos := pos_of_pieces? hcount
    simp only [Zone.emulated]
    omega

/-- The walk takes over a sound table. -/
theorem Tabled.Sound.takes (sound : t.Sound zoneSectors) (hlimit : t.device.stop < Word.limit)
    {raw : RawZone} (hraw : raw ∈ t.table) : t.device.Takes zoneSectors raw := by
  have hpos := sound.length_pos raw hraw
  have hend : raw.start + raw.length ≤ t.device.capacity :=
    (sound.tiles.between (List.mem_map_of_mem hraw)).2
  rw [Member.stop] at hlimit
  exact
    { stop_lt := by omega
      length_pos := hpos
      length_eq := (sound.length_eq raw hraw).imp_right And.right
      roomy := sound.roomy raw hraw
      known := sound.known raw hraw
      start_lt := by omega
      pointer_lt := sound.pointer_lt raw hraw
      fits := by
        rw [RawZone.FitsAt]
        omega }

/-! ## All devices -/

/-- The zones to expect of all devices. -/
def expected (zoneSectors : Nat) (fleet : List Tabled) : List Zone :=
  fleet.flatMap (Tabled.zones zoneSectors)

/-- The devices of the fleet as the walk sees them. -/
def membersIn (fleet : List Tabled) : List Member := fleet.map Tabled.device

/-- The fleet is laid out, its devices have the right number of zones, and the zoned ones are
sound. -/
structure FleetSound (zoneSectors : Nat) (fleet : List Tabled) : Prop where
  laid : LaidOut (membersIn fleet)
  counted : Counted zoneSectors (membersIn fleet)
  sound : ∀ t ∈ fleet, t.device.model.isZoned = true → t.Sound zoneSectors

theorem length_expected_of (h : ∀ t ∈ fleet, (t.zones zoneSectors).length = t.device.zoneCount) :
    (expected zoneSectors fleet).length = totalZones (membersIn fleet) := by
  induction fleet with
  | nil => rfl
  | cons t rest ih =>
    obtain ⟨ht, hrest⟩ := List.forall_mem_cons.mp h
    have ih := ih hrest
    simp only [expected, membersIn, List.flatMap_cons, List.length_append, List.map_cons,
      totalZones_cons] at ih ⊢
    omega

/-- Zones that tile each span tile the whole space. -/
theorem EndToEnd.tiles_expected {block : Nat} (h : EndToEnd block (membersIn fleet))
    (hlt : block * 8 + totalCapacity (membersIn fleet) < Word.limit)
    (htiles : ∀ t ∈ fleet,
      Tiles t.device.sectorOffset ((t.zones zoneSectors).map Zone.extent) t.device.stop) :
    Tiles (block * 8) ((expected zoneSectors fleet).map Zone.extent)
      (block * 8 + totalCapacity (membersIn fleet)) := by
  induction fleet generalizing block with
  | nil => rfl
  | cons t rest ih =>
    obtain ⟨ht, hrest⟩ := List.forall_mem_cons.mp htiles
    have hcons : membersIn (t :: rest) = t.device :: membersIn rest := rfl
    rw [hcons] at h hlt ⊢
    rw [Member.stop, h.head hlt] at ht
    rw [totalCapacity_cons, expected, List.flatMap_cons, List.map_append]
    refine tiles_append.mpr ⟨_, ht, ?_⟩
    by_cases hne : rest = []
    · subst hne
      rfl
    · obtain ⟨next, hend, hnext, hlt⟩ := h.tail hlt (by simpa [membersIn] using hne)
      have ih := ih hend hlt hrest
      rw [hnext, Nat.add_assoc] at ih
      exact ih

/-- A list that is put together from lists is cut before an element where one of those is. -/
theorem exists_of_flatMap_eq_append {α β : Type} {f : α → List β} {xs : List α}
    {before after : List β} {b : β} (h : xs.flatMap f = before ++ b :: after) :
    ∃ (i : Nat) (x : α) (pre post more : List β), xs[i]? = some x ∧ f x = pre ++ b :: post ∧
      after = post ++ more := by
  induction xs generalizing before with
  | nil => simp at h
  | cons x rest ih =>
    rw [List.flatMap_cons] at h
    rcases List.append_eq_append_iff.mp h with ⟨mid, -, hrest⟩ | ⟨mid, hx, hrest⟩
    · obtain ⟨i, y, pre, post, more, hi, hy, hafter⟩ := ih hrest
      exact ⟨i + 1, y, pre, post, more, by simpa using hi, hy, hafter⟩
    · cases mid with
      | nil =>
        have hrest : rest.flatMap f = [] ++ b :: after := hrest.symm
        obtain ⟨i, y, pre, post, more, hi, hy, hafter⟩ := ih hrest
        exact ⟨i + 1, y, pre, post, more, by simpa using hi, hy, hafter⟩
      | cons c post =>
        rw [List.cons_append, List.cons.injEq] at hrest
        obtain ⟨rfl, hafter⟩ := hrest
        exact ⟨0, x, before, post, rest.flatMap f, rfl, hx, hafter⟩

/-! ## The walk -/

namespace FleetSound

variable {passes : List Pass} {i : Nat} {z : Zone} {pre post tail : List Zone}
  (fs : FleetSound zoneSectors fleet)
include fs

theorem zones_spec (ht : t ∈ fleet) :
    (t.zones zoneSectors).length = t.device.zoneCount ∧
      Tiles t.device.sectorOffset ((t.zones zoneSectors).map Zone.extent) t.device.stop :=
  Tabled.zones_spec (fs.sound t ht) (fs.counted t.device (List.mem_map_of_mem ht))

theorem length_expected : (expected zoneSectors fleet).length = totalZones (membersIn fleet) :=
  length_expected_of fun _ ht => (fs.zones_spec ht).1

theorem tiles_expected :
    Tiles 0 ((expected zoneSectors fleet).map Zone.extent) (totalCapacity (membersIn fleet)) := by
  have h := fs.laid.endToEnd.tiles_expected (by simpa using fs.laid.capacity_lt)
    fun _ ht => (fs.zones_spec ht).2
  simpa using h

/-- If the walk has taken the expected zones up to one, the device of that one is next. -/
theorem turn {rest : List Zone}
    (h : expected zoneSectors fleet = zonesOf passes ++ z :: rest) (hi : fleet[i]? = some t)
    (hzones : t.zones zoneSectors = pre ++ z :: post) :
    front passes = z.start ∧
      Turn (membersIn fleet) passes i (z.start - t.device.sectorOffset) t.device := by
  have ht : t ∈ fleet := List.mem_of_getElem? hi
  have hmember : (membersIn fleet)[i]? = some t.device := by simp [membersIn, hi]
  -- The front, from the zones taken so far.
  have hall := fs.tiles_expected
  rw [h, List.map_append] at hall
  obtain ⟨mid, hbefore, hstart, hafter⟩ := tiles_append.mp hall
  have hle := hafter.le
  have hfront : front passes = z.start := by
    rw [front_eq_of_tiles hbefore]
    exact hstart.symm
  -- The owner, from the zones of the device.
  have hz : z ∈ t.zones zoneSectors := by simp [hzones]
  have hpos := Tabled.zones_length_pos (fs.sound t ht)
    (fs.counted t.device (List.mem_map_of_mem ht)) hz
  have hbetween : t.device.sectorOffset ≤ z.start ∧ z.start + z.length ≤ t.device.stop :=
    (fs.zones_spec ht).2.between (List.mem_map_of_mem hz)
  have hholds : t.device.Holds z.start := ⟨hbetween.1, by omega⟩
  have htotal := fs.laid.stop_le_total hmember
  refine ⟨hfront, by omega, ?_, hmember⟩
  rw [hfront]
  exact fs.laid.sectorOwner?_eq hmember hholds

/-- The step at a zone of a regular device takes over that zone. -/
theorem exists_emulated (h : expected zoneSectors fleet = zonesOf passes ++ z :: (post ++ tail))
    (hi : fleet[i]? = some t) (hzones : t.zones zoneSectors = pre ++ z :: post)
    (regular : t.device.model.isZoned = false) :
    ∃ p more, Step (membersIn fleet) zoneSectors report passes p ∧
      z :: (post ++ tail) = p.zones ++ more := by
  obtain ⟨hfront, turn⟩ := fs.turn h hi hzones
  have hroom : (zonesOf passes).length < totalZones (membersIn fleet) := by
    rw [← fs.length_expected, h]
    simp
  have step : Step (membersIn fleet) zoneSectors report passes _ :=
    .emulated_of_turn fs.laid turn regular hroom
  have hz : z = .emulated (front passes) (min zoneSectors (t.device.stop - front passes)) := by
    rw [hfront]
    have hmem : z ∈ t.zones zoneSectors := by simp [hzones]
    rw [Tabled.zones, regular] at hmem
    obtain ⟨k, -, rfl⟩ := List.mem_map.mp hmem
    simp only [Zone.emulated, Member.stop, Nat.add_sub_add_left]
  rw [← hz] at step
  exact ⟨_, _, step, rfl⟩

/-- The step at a zone of a zoned device takes over the zones of an answer, that one first. -/
theorem exists_reported (truthful : Truthful fleet report)
    (h : expected zoneSectors fleet = zonesOf passes ++ z :: (post ++ tail))
    (hi : fleet[i]? = some t) (hzones : t.zones zoneSectors = pre ++ z :: post)
    (zoned : t.device.model.isZoned = true) :
    ∃ p more, Step (membersIn fleet) zoneSectors report passes p ∧
      z :: (post ++ tail) = p.zones ++ more := by
  obtain ⟨-, turn⟩ := fs.turn h hi hzones
  rw [Tabled.zones, if_pos zoned] at hzones
  obtain ⟨before, after, htable, -, hafter⟩ := List.map_eq_append_iff.mp hzones
  obtain ⟨raw, later, rfl, rfl, rfl⟩ := List.map_eq_cons_iff.mp hafter
  have hlocal : (raw.toZone t.device.sectorOffset).start - t.device.sectorOffset = raw.start :=
    Nat.add_sub_cancel ..
  rw [hlocal] at turn
  obtain ⟨buffer, hanswer, hnonempty, left, hleft⟩ :=
    truthful (askedIn passes) i t before.length raw hi zoned (by simp [htable])
  generalize hholds : buffer.zones = raws at hnonempty hleft
  have hrun : raws ++ left = raw :: later := by rw [hleft, htable, List.drop_left]
  have hroom : (zonesOf passes).length + raws.length ≤ totalZones (membersIn fleet) := by
    have := congrArg List.length hrun
    rw [← fs.length_expected, h]
    simp only [List.length_append, List.length_cons, List.length_map] at this ⊢
    omega
  have htakes : ∀ raw' ∈ raws, t.device.Takes zoneSectors raw' := by
    intro raw' hraw'
    have htotal := fs.laid.stop_le_total turn.device
    have hlimit := fs.laid.capacity_lt
    refine (fs.sound t (List.mem_of_getElem? hi) zoned).takes (by omega) ?_
    rw [htable, ← hrun]
    simp [hraw']
  have step := Step.reported turn zoned hanswer hholds hnonempty hroom htakes
  have hcut : (raw :: later).map (·.toZone t.device.sectorOffset) ++ tail =
      raws.map (·.toZone t.device.sectorOffset) ++
        (left.map (·.toZone t.device.sectorOffset) ++ tail) := by
    rw [← hrun, List.map_append, List.append_assoc]
  exact ⟨_, _, step, hcut⟩

/-- **One step.** As long as there are zones left to expect, the walk takes over the next ones. -/
theorem exists_step (truthful : Truthful fleet report) {rest : List Zone}
    (h : expected zoneSectors fleet = zonesOf passes ++ z :: rest) :
    ∃ p more, Step (membersIn fleet) zoneSectors report passes p ∧
      z :: rest = p.zones ++ more := by
  obtain ⟨i, t, pre, post, tail, hi, hzones, rfl⟩ := exists_of_flatMap_eq_append h
  cases hzoned : t.device.model.isZoned with
  | false => exact fs.exists_emulated h hi hzones hzoned
  | true => exact fs.exists_reported truthful h hi hzones hzoned

/-- **A run.** The walk takes over all the zones to expect. -/
theorem exists_trace (truthful : Truthful fleet report) {rest : List Zone}
    (trace : Trace (membersIn fleet) zoneSectors report passes)
    (h : expected zoneSectors fleet = zonesOf passes ++ rest) :
    ∃ all, Trace (membersIn fleet) zoneSectors report all ∧
      zonesOf all = expected zoneSectors fleet := by
  generalize hroom : rest.length = room
  induction room using Nat.strongRecOn generalizing passes rest with
  | ind room ih =>
    cases rest with
    | nil => exact ⟨passes, trace, by simp [h]⟩
    | cons z rest =>
      obtain ⟨p, more, step, hmore⟩ := fs.exists_step truthful h
      have hzones := step.length_lt.1
      simp only [zonesOf_append, List.length_append] at hzones
      have hlength := congrArg List.length hmore
      rw [List.length_append, hroom] at hlength
      rw [hmore, ← List.append_assoc, ← zonesOf_append] at h
      exact ih more.length (by omega) (trace.step step) h rfl

end FleetSound

/-- **Sound devices are accepted, with the zones they have**, in whatever batches they report
them. -/
theorem collectZones_truthful (fs : FleetSound zoneSectors fleet)
    (htotal : totalZones (membersIn fleet) ≤ zoneLimit) (truthful : Truthful fleet report) :
    (collectZones label (membersIn fleet) zoneSectors report).result =
      .ok (expected zoneSectors fleet).toArray := by
  obtain ⟨passes, trace, hzones⟩ := fs.exists_trace truthful .start (List.nil_append _).symm
  have htiles := fs.tiles_expected
  rw [← hzones] at htiles
  have hfront := front_eq_of_tiles htiles
  rw [front, hzones] at hfront
  have account : Account (membersIn fleet) zoneSectors report passes
      (expected zoneSectors fleet).toArray :=
    ⟨trace, hzones.symm, fs.laid.capacity_lt, htotal, by simpa using fs.length_expected, hfront⟩
  rw [collectZones_of_account account]

/-! ## Devices that answer in batches -/

/-- Devices, each with the descriptors that it holds. -/
def fleetOf (devices : List Member) (tables : List (List Descriptor)) : List Tabled :=
  (devices.zip tables).map fun (device, ds) => ⟨device, ds.map (·.toRawZone true)⟩

theorem table_fleetOf {devices : List Member} {tables : List (List Descriptor)} {i : Nat}
    (hi : (fleetOf devices tables)[i]? = some t) :
    t.table = (tables.getD i []).map (·.toRawZone true) := by
  rw [fleetOf, List.getElem?_map, Option.map_eq_some_iff] at hi
  obtain ⟨⟨device, ds⟩, hzip, rfl⟩ := hi
  have hds := (List.getElem?_zip_eq_some.mp hzip).2
  simp [hds]

/-- Devices that hold descriptors, and answer a query with those that are not over before the
sector asked for, or a part of them. How large a part depends on what was asked before. -/
def Reporter.inBatches (tables : List (List Descriptor)) (size : List Query → Nat) : Reporter :=
  fun earlier query buffer =>
    let left := (tables.getD query.device []).dropWhile fun d => d.start.toNat < query.sector
    .ok (buffer.fill (.ofDescriptors (left.take (min (size earlier + 1) ReportBuffer.maxZones))))

/-- In a tiling without empty extents, the extents before one start before it. -/
theorem Tiles.start_lt {first stop : Nat} {before after : List Extent} {e : Extent}
    (h : Tiles first (before ++ e :: after) stop)
    (hpos : ∀ f ∈ before, 0 < f.length) {f : Extent} (hf : f ∈ before) : f.start < e.start := by
  obtain ⟨mid, hbefore, hstart, -⟩ := tiles_append.mp h
  have := hbefore.between hf
  have := hpos f hf
  omega

/-- They are truthful, however large the batches are. -/
theorem truthful_inBatches {devices : List Member} {tables : List (List Descriptor)}
    (size : List Query → Nat)
    (sound : ∀ t ∈ fleetOf devices tables, t.device.model.isZoned = true → t.Sound zoneSectors) :
    Truthful (fleetOf devices tables) (.inBatches tables size) := by
  intro earlier i t j raw hi zoned hraw
  obtain ⟨htiles, hpos, -⟩ := sound t (List.mem_of_getElem? hi) zoned
  rw [table_fleetOf hi] at hraw htiles hpos ⊢
  generalize hds : tables.getD i [] = ds at hraw htiles hpos ⊢
  rw [List.getElem?_map, Option.map_eq_some_iff] at hraw
  obtain ⟨d, hd, rfl⟩ := hraw
  obtain ⟨hj, hget⟩ := List.getElem?_eq_some_iff.mp hd
  have hdrop : ds.drop j = d :: ds.drop (j + 1) := by rw [← hget, List.getElem_cons_drop]
  have hsplit : ds = ds.take j ++ d :: ds.drop (j + 1) := by
    rw [← hdrop, List.take_append_drop]
  -- The descriptors before are those that start before the sector asked for.
  have hleft : ds.dropWhile (fun e => e.start.toNat < d.start.toNat) = ds.drop j := by
    rw [hsplit, List.map_append, List.map_append] at htiles
    have hposBefore : ∀ f ∈ ((ds.take j).map (·.toRawZone true)).map RawZone.extent,
        0 < f.length := by
      intro f hf
      obtain ⟨raw, hraw, rfl⟩ := List.mem_map.mp hf
      obtain ⟨e, he, rfl⟩ := List.mem_map.mp hraw
      exact hpos _ (List.mem_map_of_mem (List.mem_of_mem_take he))
    have hlt : ∀ e ∈ ds.take j, decide (e.start.toNat < d.start.toNat) = true := by
      intro e he
      have := htiles.start_lt hposBefore (List.mem_map_of_mem (List.mem_map_of_mem he))
      exact decide_eq_true this
    conv => lhs; rw [hsplit]
    rw [List.dropWhile_append_of_pos hlt, List.dropWhile_cons_of_neg (by simp), hdrop]
  obtain ⟨n, hn⟩ : ∃ n, min (size earlier + 1) ReportBuffer.maxZones = n + 1 :=
    ⟨min (size earlier) (ReportBuffer.maxZones - 1), by
      have : 0 < ReportBuffer.maxZones := by decide
      omega⟩
  have hmax : ((ds.drop j).take (n + 1)).length ≤ ReportBuffer.maxZones := by
    rw [List.length_take, ← hn]
    omega
  refine ⟨(ReportBuffer.prepare d.start.toNat).fill (.ofDescriptors ((ds.drop j).take (n + 1))),
    ?_, ?_, ?_⟩
  · have hstart : (d.toRawZone true).start = d.start.toNat := rfl
    rw [hstart, Reporter.inBatches, hds, hleft, hn]
  · rw [ReportBuffer.zones_fill_ofDescriptors _ hmax, hdrop]
    simp
  · rw [ReportBuffer.zones_fill_ofDescriptors _ hmax, ← List.map_drop]
    exact (List.take_prefix _ _).map _

/-! ## A fleet -/

def cacheAndZonedTables : List (List Descriptor) :=
  [[], [⟨0, 256, 256, 256, 1, 0, 0, 0⟩, ⟨256, 256, 300, 0, 2, 2, 1, 0⟩,
    ⟨512, 88, 512, 88, 2, 1, 0, 0⟩]]

instance (t : Tabled) : Decidable (t.Sound zoneSectors) :=
  decidable_of_iff (Tiles 0 (t.table.map RawZone.extent) t.device.capacity ∧
      (∀ raw ∈ t.table, 0 < raw.length) ∧
      (∀ raw ∈ t.table, raw.length = zoneSectors ∨
        raw.length ≤ zoneSectors ∧ raw.start + raw.length = t.device.capacity) ∧
      (∀ raw ∈ t.table, (ZoneCondition.ofCode? raw.conditionCode).isSome) ∧
      (∀ raw ∈ t.table, raw.length ≤ raw.effectiveCapacity) ∧
      ∀ raw ∈ t.table, ZoneType.ofCode raw.typeCode ≠ .conventional →
        raw.writePointer + t.device.sectorOffset < Word.limit)
    ⟨fun ⟨h1, h2, h3, h4, h5, h6⟩ => ⟨h1, h2, h3, h4, h5, h6⟩,
      fun ⟨h1, h2, h3, h4, h5, h6⟩ => ⟨h1, h2, h3, h4, h5, h6⟩⟩

/-- A regular and a zoned device, which answers with one zone, and then with the other two. -/
theorem collectZones_truthful_cacheAndZoned :
    let fleet := fleetOf cacheAndZoned cacheAndZonedTables
    let report := Reporter.inBatches cacheAndZonedTables List.length
    FleetSound 256 fleet ∧ totalZones (membersIn fleet) ≤ zoneLimit ∧ Truthful fleet report ∧
      expected 256 fleet = cacheAndZonedZones.toList ∧
      (collectZones "c+z" (membersIn fleet) 256 report).result =
        .ok (expected 256 fleet).toArray :=
  have sound : ∀ t ∈ fleetOf cacheAndZoned cacheAndZonedTables,
    t.device.model.isZoned = true → t.Sound 256 := by decide
  have fs : FleetSound 256 (fleetOf cacheAndZoned cacheAndZonedTables) :=
    ⟨by decide, by decide, sound⟩
  have truthful := truthful_inBatches List.length sound
  ⟨fs, by decide, truthful, by decide, collectZones_truthful fs (by decide) truthful⟩

end ZonedSet
