/-
ZonedSet.Proofs.Walk.Contribution — when every device of a set brings its own zones.

The walk asks the device that owns the sector at the front, and takes its answer over without
asking again who owns the sectors in it. Zones are only counted for the whole set. So a device
that reports a zone too many, into the span of the next device, can have it stand for one of
that device's zones.

This module gives the exact condition. Every device brings its own zones, as many as it should, if
and only if no answer of the walk runs past the end of its device, and every zoned device has
given as many descriptors as it has zones. What carries the proof is `Pass.Inside`: a pass takes
its zones from within the span of its device. When all passes do, the zones of a span are the
zones taken from its device (`startsIn_eq_takenFrom`), and a regular device is gone through from
one end to the other (`Trace.emulation`).
-/
import ZonedSet.Proofs.Walk.Validation

namespace ZonedSet

variable {label : String} {devices : List Member} {zoneSectors : Nat} {report : Reporter}
  {passes : List Pass} {p : Pass} {i : Nat} {dev : Member}

/-! ## Counting zones -/

/-- How many of the zones start in a stretch of sectors. -/
def startsIn (first stop : Nat) (zones : List Zone) : Nat :=
  zones.countP fun z => decide (first ≤ z.start ∧ z.start < stop)

/-- Stretches that touch add up. -/
theorem startsIn_add {first mid stop : Nat} (zones : List Zone) (h : first ≤ mid)
    (h' : mid ≤ stop) :
    startsIn first mid zones + startsIn mid stop zones = startsIn first stop zones := by
  induction zones with
  | nil => rfl
  | cons z rest ih =>
    simp only [startsIn, List.countP_cons, decide_eq_true_eq] at ih ⊢
    rw [← ih]
    split <;> split <;> split <;> omega

/-- Devices end to end that all have their number of zones have them all together. -/
theorem EndToEnd.startsIn_eq {block : Nat} (h : EndToEnd block devices)
    (hlt : block * 8 + totalCapacity devices < Word.limit) {zones : List Zone}
    (hcount : ∀ d ∈ devices, startsIn d.sectorOffset d.stop zones = d.zoneCount) :
    startsIn (block * 8) (block * 8 + totalCapacity devices) zones = totalZones devices := by
  induction devices generalizing block with
  | nil =>
    rw [totalCapacity_nil, totalZones_nil, startsIn, List.countP_eq_zero]
    intro z _
    simp only [decide_eq_true_eq]
    omega
  | cons d rest ih =>
    obtain ⟨hd, hcount⟩ := List.forall_mem_cons.mp hcount
    rw [Member.stop, h.head hlt] at hd
    rw [totalCapacity_cons, totalZones_cons, ← hd]
    by_cases hne : rest = []
    · subst hne
      simp
    · obtain ⟨next, hrest, hnext, hlt⟩ := h.tail hlt hne
      have hmore := ih hrest hlt hcount
      rw [hnext, Nat.add_assoc] at hmore
      rw [← hmore, startsIn_add zones (by omega) (by omega)]

/-- If every device has its number of zones, and there are no others, every zone starts within
the space. -/
theorem LaidOut.start_lt (laid : LaidOut devices) {zones : List Zone}
    (hlength : zones.length = totalZones devices)
    (hcount : ∀ d ∈ devices, startsIn d.sectorOffset d.stop zones = d.zoneCount) {z : Zone}
    (hz : z ∈ zones) : z.start < totalCapacity devices := by
  have hall := laid.endToEnd.startsIn_eq (by simpa using laid.capacity_lt) hcount
  rw [← hlength, startsIn, List.countP_eq_length] at hall
  have := hall z hz
  simpa using this

/-! ## Passes within their devices -/

/-- The pass takes its zones from within the span of its device. -/
def Pass.Inside (devices : List Member) (p : Pass) : Prop :=
  ∀ dev, devices[p.device]? = some dev →
    ∀ z ∈ p.zones, dev.Holds z.start ∧ z.start + z.length ≤ dev.stop

/-- An answer does not run past the end of its device. -/
def Fits (devices : List Member) (query : Query) (raws : List RawZone) : Prop :=
  ∀ dev, devices[query.device]? = some dev →
    ∀ raw ∈ raws, raw.start + raw.length ≤ dev.capacity

/-- **One step.** Its zones are within its device if and only if its answer is. -/
theorem Step.inside_iff (laid : LaidOut devices)
    (step : Step devices zoneSectors report passes p) :
    p.Inside devices ↔
      ∀ query raws, p.exchange? = some (query, raws) → Fits devices query raws := by
  cases step with
  | @emulated i start dev turn regular inside room fits =>
    refine iff_of_true (fun other hother z hz => ?_) fun query raws hexchange => ?_
    · obtain rfl := turn.device_eq hother
      obtain rfl := List.mem_singleton.mp hz
      obtain ⟨hholds, -⟩ := turn.holds laid
      rw [turn.rest_eq laid]
      refine ⟨hholds, ?_⟩
      have := hholds.2
      simp only [Zone.emulated]
      omega
    · cases hexchange
  | @reported i start dev buffer raws turn zoned answer holds nonempty room takes =>
    constructor
    · intro h query raws' hexchange other hother raw hraw
      cases hexchange
      obtain ⟨-, hend⟩ := h other hother _ (List.mem_map_of_mem hraw)
      obtain rfl := turn.device_eq hother
      simp only [RawZone.toZone, Member.stop] at hend
      omega
    · intro h other hother z hz
      obtain ⟨raw, hraw, rfl⟩ := List.mem_map.mp hz
      obtain rfl := turn.device_eq hother
      have hfits := h _ _ rfl dev turn.device raw hraw
      have hlength := (takes raw hraw).length_pos
      simp only [Member.Holds, RawZone.toZone, Member.stop]
      omega

/-- The same of all passes of a trace. -/
theorem Trace.inside_iff (laid : LaidOut devices)
    (trace : Trace devices zoneSectors report passes) :
    (∀ p ∈ passes, p.Inside devices) ↔
      ∀ query raws, (query, raws) ∈ answers report (askedIn passes) →
        Fits devices query raws := by
  rw [trace.forall_answers_iff]
  constructor
  · intro h p hp
    obtain ⟨earlier, step⟩ := trace.exists_step hp
    exact (step.inside_iff laid).mp (h p hp)
  · intro h p hp
    obtain ⟨earlier, step⟩ := trace.exists_step hp
    exact (step.inside_iff laid).mpr (h p hp)

/-- If all passes are within their devices, the zones in a span are those that come from its
device. -/
theorem Trace.holds_iff (laid : LaidOut devices)
    (trace : Trace devices zoneSectors report passes)
    (hinside : ∀ p ∈ passes, p.Inside devices) (hi : devices[i]? = some dev) :
    ∀ p ∈ passes, ∀ z ∈ p.zones, dev.Holds z.start ↔ p.device = i := by
  intro p hp z hz
  constructor
  · intro hholds
    obtain ⟨earlier, step⟩ := trace.exists_step hp
    obtain ⟨start, other, turn⟩ := step.exists_turn
    obtain ⟨hother, -⟩ := hinside p hp other turn.device z hz
    exact laid.holds_unique turn.device hi hother hholds
  · rintro rfl
    exact (hinside p hp dev hi z hz).1

/-! ## Zones taken from a device -/

/-- How many zones the passes take from a device. -/
def takenFrom (i : Nat) (passes : List Pass) : Nat :=
  (zonesOf (passes.filter (·.device == i))).length

/-- The descriptors that a device gives in a list of answers. -/
def descriptorsOf (i : Nat) (exchanges : List (Query × List RawZone)) : List RawZone :=
  (exchanges.filter (·.1.device == i)).flatMap Prod.snd

theorem takenFrom_append (i : Nat) (passes : List Pass) (p : Pass) :
    takenFrom i (passes ++ [p]) =
      takenFrom i passes + if p.device = i then p.zones.length else 0 := by
  by_cases h : p.device = i
  · simp [takenFrom, h]
  · simp [takenFrom, h]

/-- If the zones in a span are those that come from its device, they are as many as were taken
from it. -/
theorem startsIn_eq_takenFrom
    (h : ∀ p ∈ passes, ∀ z ∈ p.zones, dev.Holds z.start ↔ p.device = i) :
    startsIn dev.sectorOffset dev.stop (zonesOf passes) = takenFrom i passes := by
  induction passes with
  | nil => rfl
  | cons p rest ih =>
    obtain ⟨hp, hrest⟩ := List.forall_mem_cons.mp h
    have ih := ih hrest
    have hzones : zonesOf (p :: rest) = p.zones ++ zonesOf rest := rfl
    rw [startsIn, hzones, List.countP_append]
    rw [startsIn] at ih
    rw [ih]
    by_cases hdevice : p.device = i
    · have hall : (p.zones.countP fun z =>
          decide (dev.sectorOffset ≤ z.start ∧ z.start < dev.stop)) = p.zones.length :=
        List.countP_eq_length.mpr fun z hz => decide_eq_true ((hp z hz).mpr hdevice)
      rw [hall]
      simp [takenFrom, hdevice, zonesOf]
    · have hnone : (p.zones.countP fun z =>
          decide (dev.sectorOffset ≤ z.start ∧ z.start < dev.stop)) = 0 :=
        List.countP_eq_zero.mpr fun z hz hholds =>
          hdevice ((hp z hz).mp (of_decide_eq_true hholds))
      rw [hnone]
      simp [takenFrom, hdevice]

/-- A zoned device brings a zone for each descriptor. -/
theorem Trace.takenFrom_eq (trace : Trace devices zoneSectors report passes)
    (hi : devices[i]? = some dev) (zoned : dev.model.isZoned = true) :
    takenFrom i passes = (descriptorsOf i (answers report (askedIn passes))).length := by
  rw [answers_askedIn trace]
  induction trace with
  | start => rfl
  | @step passes p trace step ih =>
    cases step with
    | @emulated j start other turn regular inside room fits =>
      have hne : j ≠ i := by
        rintro rfl
        obtain rfl := turn.device_eq hi
        rw [zoned] at regular
        cases regular
      rw [takenFrom_append, ih]
      simp [Pass.device, hne, List.filterMap_cons, Pass.exchange?]
    | @reported j start other buffer raws turn zoned answer holds nonempty room takes =>
      rw [takenFrom_append, ih]
      by_cases hj : j = i
      · simp [descriptorsOf, Pass.exchange?, Pass.device, Pass.zones, hj]
      · simp [descriptorsOf, Pass.exchange?, Pass.device, hj]

/-! ## Emulation -/

/-- How far the walk is with a regular device, of which it has taken this many zones: it has not
come to it yet, it is within it, or it has gone through it. -/
inductive Emulation (zoneSectors : Nat) (dev : Member) : (front taken : Nat) → Prop where
  | ahead {front : Nat} (h : front ≤ dev.sectorOffset) : Emulation zoneSectors dev front 0
  | within {taken : Nat} (h : taken * zoneSectors < dev.capacity) :
      Emulation zoneSectors dev (dev.sectorOffset + taken * zoneSectors) taken
  | behind {front : Nat} (h : dev.stop ≤ front) : Emulation zoneSectors dev front dev.zoneCount

/-- Within a device, or right at its start, the zones so far fill it up to the front. -/
theorem Emulation.front_eq {front taken : Nat} (h : Emulation zoneSectors dev front taken)
    (hholds : dev.Holds front) :
    front = dev.sectorOffset + taken * zoneSectors := by
  obtain ⟨hge, hlt⟩ := hholds
  cases h with
  | ahead h => omega
  | within h => rfl
  | behind h => omega

theorem Emulation.taken_eq_zero {front taken : Nat} (h : Emulation zoneSectors dev front taken)
    (hfront : front < dev.sectorOffset) : taken = 0 := by
  cases h with
  | ahead h => rfl
  | within h => omega
  | behind h =>
    simp only [Member.stop] at h
    omega

theorem Emulation.taken_eq {front taken : Nat} (h : Emulation zoneSectors dev front taken)
    (hpos : 0 < dev.capacity) (hfront : dev.stop ≤ front) : taken = dev.zoneCount := by
  simp only [Member.stop] at hfront
  cases h with
  | ahead h => omega
  | within h => omega
  | behind h => rfl

/-- One more emulated zone. -/
theorem Emulation.succ {front taken : Nat} (h : Emulation zoneSectors dev front taken)
    (hholds : dev.Holds front) (hcount : pieces? dev.capacity zoneSectors = some dev.zoneCount) :
    Emulation zoneSectors dev (front + min zoneSectors (dev.stop - front)) (taken + 1) := by
  have hfront := h.front_eq hholds
  have hlt := hholds.2
  have hpieces := lt_iff_of_pieces? hcount
  have hsucc : (taken + 1) * zoneSectors = taken * zoneSectors + zoneSectors :=
    Nat.succ_mul taken zoneSectors
  by_cases hmore : (taken + 1) * zoneSectors < dev.capacity
  · have hnext : front + min zoneSectors (dev.stop - front) =
        dev.sectorOffset + (taken + 1) * zoneSectors := by
      simp only [Member.stop] at *
      omega
    rw [hnext]
    exact .within hmore
  · -- The zone is the last one.
    have hlast : taken + 1 = dev.zoneCount := by
      have hthis := (hpieces taken).mpr (by simp only [Member.stop] at hlt; omega)
      have hnext := mt (hpieces (taken + 1)).mp hmore
      omega
    rw [hlast]
    refine .behind ?_
    simp only [Member.stop] at *
    omega

/-- The next pass leaves the front within the span of its device. -/
theorem Step.front_le (laid : LaidOut devices) (hpos : 0 < zoneSectors)
    (step : Step devices zoneSectors report passes p) (hinside : p.Inside devices) :
    ∃ dev, devices[p.device]? = some dev ∧ dev.Holds (front passes) ∧
      dev.sectorOffset < front (passes ++ [p]) ∧ front (passes ++ [p]) ≤ dev.stop := by
  obtain ⟨start, dev, turn⟩ := step.exists_turn
  obtain ⟨before, z, hlast⟩ : ∃ before z, p.zones = before ++ [z] := by
    have hne : p.zones ≠ [] := by
      intro hnil
      have := step.length_lt.1
      rw [zonesOf_append, hnil, List.append_nil] at this
      exact Nat.lt_irrefl _ this
    exact ⟨_, _, (List.dropLast_concat_getLast hne).symm⟩
  have hz : z ∈ p.zones := by simp [hlast]
  obtain ⟨hstart, hstop⟩ := hinside dev turn.device z hz
  obtain ⟨other, -, hvalid⟩ := step.validIn laid hpos
  have hlength := (hvalid z hz).length_pos
  refine ⟨dev, turn.device, (turn.holds laid).1, ?_⟩
  rw [front_append hlast, Zone.stop]
  have := hstart.1
  omega

/-- An emulated zone brings the front as far as it can within the device. -/
theorem Turn.front_emulated (laid : LaidOut devices) {start : Nat}
    (turn : Turn devices passes i start dev) :
    front (passes ++
        [.emulated i (.emulated (front passes) (min zoneSectors (dev.capacity - start)))]) =
      front passes + min zoneSectors (dev.stop - front passes) := by
  rw [turn.rest_eq laid]
  have hlast : Pass.zones (.emulated i
      (.emulated (front passes) (min zoneSectors (dev.stop - front passes)))) =
        [] ++ [.emulated (front passes) (min zoneSectors (dev.stop - front passes))] := rfl
  exact front_append hlast

/-- **A run.** If all passes are within their devices, a regular device is gone through from one
end to the other. -/
theorem Trace.emulation (laid : LaidOut devices) (hi : devices[i]? = some dev)
    (hcount : pieces? dev.capacity zoneSectors = some dev.zoneCount) (hpos : 0 < zoneSectors)
    (regular : dev.model.isZoned = false) (trace : Trace devices zoneSectors report passes)
    (hinside : ∀ p ∈ passes, p.Inside devices) :
    Emulation zoneSectors dev (front passes) (takenFrom i passes) := by
  induction trace with
  | start => exact .ahead (Nat.zero_le _)
  | @step passes p trace step ih =>
    obtain ⟨hbefore, hp⟩ := List.forall_mem_append.mp hinside
    have ih := ih hbefore
    obtain ⟨other, hother, hholds, hlt, hle⟩ := step.front_le laid hpos (hp p (by simp))
    rw [takenFrom_append]
    by_cases hdevice : p.device = i
    · rw [if_pos hdevice]
      cases step with
      | @emulated j start next turn =>
        obtain rfl : j = i := hdevice
        obtain rfl := turn.device_eq hi
        rw [turn.front_emulated laid]
        exact ih.succ (turn.holds laid).1 hcount
      | @reported j start next buffer raws turn zoned answer holds nonempty room takes =>
        obtain rfl : j = i := hdevice
        obtain rfl := turn.device_eq hi
        rw [regular] at zoned
        cases zoned
    · rw [if_neg hdevice]
      rcases Nat.lt_or_gt_of_ne hdevice with hbefore | hafter
      · -- The pass is of an earlier device, so the front is still ahead.
        have := laid.stop_le hother hi hbefore
        have hholds := hholds.2
        rw [ih.taken_eq_zero (by omega)]
        exact .ahead (by omega)
      · -- The pass is of a later device, so the front was past this one before.
        have := laid.stop_le hi hother hafter
        have hholds := hholds.1
        have hcapacity := laid.endToEnd.capacity_pos (List.mem_of_getElem? hi)
        rw [ih.taken_eq hcapacity (by omega)]
        exact .behind (by omega)

/-! ## Own zones -/

/-- The device brings its own zones: those that start in its span are as many as it should have,
lie wholly within the span, and were taken from the device itself. They are emulated for a regular
device, and for a zoned one each is a descriptor that the device gave. -/
structure OwnZones (report : Reporter) (passes : List Pass) (zones : Array Zone) (i : Nat)
    (dev : Member) : Prop where
  count : startsIn dev.sectorOffset dev.stop zones.toList = dev.zoneCount
  inside : ∀ z ∈ zones.toList, dev.Holds z.start → z.start + z.length ≤ dev.stop
  source : ∀ p ∈ passes, ∀ z ∈ p.zones, dev.Holds z.start → p.device = i
  emulated : dev.model.isZoned = false → ∀ z ∈ zones.toList, dev.Holds z.start →
    z = .emulated z.start z.length
  translated : dev.model.isZoned = true → ∀ z ∈ zones.toList, dev.Holds z.start →
    ∃ query raws, (query, raws) ∈ answers report (askedIn passes) ∧ query.device = i ∧
      ∃ raw ∈ raws, z = raw.toZone dev.sectorOffset

/-- A zone that a step takes from a device is emulated, or a descriptor of the device. -/
theorem Step.mem_zones (hi : devices[i]? = some dev)
    (step : Step devices zoneSectors report passes p) (hdevice : p.device = i) {z : Zone}
    (hz : z ∈ p.zones) :
    (dev.model.isZoned = false ∧ z = .emulated z.start z.length) ∨
      (dev.model.isZoned = true ∧ ∃ query raws, p.exchange? = some (query, raws) ∧
        query.device = i ∧ ∃ raw ∈ raws, z = raw.toZone dev.sectorOffset) := by
  cases step with
  | @emulated j start next turn regular inside room fits =>
    obtain rfl : j = i := hdevice
    obtain rfl := turn.device_eq hi
    obtain rfl := List.mem_singleton.mp hz
    exact .inl ⟨regular, rfl⟩
  | @reported j start next buffer raws turn zoned answer holds nonempty room takes =>
    obtain rfl : j = i := hdevice
    obtain rfl := turn.device_eq hi
    obtain ⟨raw, hraw, rfl⟩ := List.mem_map.mp hz
    exact .inr ⟨zoned, _, raws, rfl, rfl, raw, hraw, rfl⟩

/-- Devices with their own zones let every pass stay within its device. -/
theorem Account.inside_of_ownZones (laid : LaidOut devices) {zones : Array Zone}
    (account : Account devices zoneSectors report passes zones)
    (hown : ∀ i dev, devices[i]? = some dev → OwnZones report passes zones i dev) :
    ∀ p ∈ passes, p.Inside devices := by
  intro p hp dev hdev z hz
  have hcount : ∀ d ∈ devices, startsIn d.sectorOffset d.stop zones.toList = d.zoneCount := by
    intro d hd
    obtain ⟨i, hi⟩ := List.mem_iff_getElem?.mp hd
    exact (hown i d hi).count
  have hmem : z ∈ zones.toList := by
    rw [account.zones_eq]
    exact mem_zonesOf.mpr ⟨p, hp, hz⟩
  -- The counts add up to all zones, so this one too starts in the span of some device.
  have hlt := laid.start_lt (by simpa using account.size_eq) hcount hmem
  obtain ⟨i, other, hi, hholds⟩ := laid.exists_holds hlt
  have hsource := (hown i other hi).source p hp z hz hholds
  rw [hsource, hi] at hdev
  obtain rfl : other = dev := Option.some.inj hdev
  exact ⟨hholds, (hown i other hi).inside z hmem hholds⟩

/-- Passes within their devices, with enough descriptors, give every device its own zones. -/
theorem Account.ownZones_of_inside (laid : LaidOut devices) (counted : Counted zoneSectors devices)
    {zones : Array Zone} (account : Account devices zoneSectors report passes zones)
    (hinside : ∀ p ∈ passes, p.Inside devices) (hi : devices[i]? = some dev)
    (henough : dev.model.isZoned = true →
      (descriptorsOf i (answers report (askedIn passes))).length = dev.zoneCount) :
    OwnZones report passes zones i dev := by
  have hsource := account.trace.holds_iff laid hinside hi
  have hfrom : ∀ z ∈ zones.toList, dev.Holds z.start →
      ∃ p ∈ passes, p.device = i ∧ z ∈ p.zones := by
    intro z hz hholds
    obtain ⟨p, hp, hz, -⟩ := account.exists_step hz
    exact ⟨p, hp, (hsource p hp z hz).mp hholds, hz⟩
  refine ⟨?_, ?_, fun p hp z hz => (hsource p hp z hz).mp, ?_, ?_⟩
  · rw [account.zones_eq, startsIn_eq_takenFrom hsource]
    cases hzoned : dev.model.isZoned with
    | true => rw [account.trace.takenFrom_eq hi hzoned, henough hzoned]
    | false =>
      have hcount := counted dev (List.mem_of_getElem? hi)
      have hpos := pos_of_pieces? hcount
      have hend : dev.stop ≤ front passes := by
        have htotal := laid.stop_le_total hi
        have hfront := account.frontier_eq
        rw [front, ← account.zones_eq]
        rw [← hfront] at htotal
        exact htotal
      exact (account.trace.emulation laid hi hcount hpos hzoned hinside).taken_eq
        (laid.endToEnd.capacity_pos (List.mem_of_getElem? hi)) hend
  · intro z hz hholds
    obtain ⟨p, hp, rfl, hz⟩ := hfrom z hz hholds
    exact (hinside p hp dev hi z hz).2
  · intro regular z hz hholds
    obtain ⟨p, hp, hdevice, hz⟩ := hfrom z hz hholds
    obtain ⟨earlier, step⟩ := account.trace.exists_step hp
    rcases step.mem_zones hi hdevice hz with ⟨-, hz⟩ | ⟨zoned, -⟩
    · exact hz
    · rw [regular] at zoned
      cases zoned
  · intro zoned z hz hholds
    obtain ⟨p, hp, hdevice, hz⟩ := hfrom z hz hholds
    obtain ⟨earlier, step⟩ := account.trace.exists_step hp
    rcases step.mem_zones hi hdevice hz with ⟨regular, -⟩ | ⟨-, query, raws, hexchange, hraw⟩
    · rw [zoned] at regular
      cases regular
    · rw [answers_askedIn account.trace]
      exact ⟨query, raws, List.mem_filterMap.mpr ⟨p, hp, hexchange⟩, hraw⟩

/-- **When every device of a set brings its own zones.** They do if and only if no answer of the
walk runs past the end of its device, and every zoned device has given a descriptor for each of
its zones. -/
theorem ownZones_iff (laid : LaidOut devices) (counted : Counted zoneSectors devices)
    {zones : Array Zone}
    (h : (collectZones label devices zoneSectors report).result = .ok zones) :
    ∃ passes, Account devices zoneSectors report passes zones ∧
      ((∀ i dev, devices[i]? = some dev → OwnZones report passes zones i dev) ↔
        let exchanges := answers report (collectZones label devices zoneSectors report).asked
        (∀ query raws, (query, raws) ∈ exchanges → Fits devices query raws) ∧
          ∀ i dev, devices[i]? = some dev → dev.model.isZoned = true →
            (descriptorsOf i exchanges).length = dev.zoneCount) := by
  obtain ⟨passes, account⟩ := exists_account h
  refine ⟨passes, account, ?_⟩
  rw [collectZones_of_account account]
  dsimp only
  rw [← account.trace.inside_iff laid]
  constructor
  · intro hown
    have hinside := account.inside_of_ownZones laid hown
    refine ⟨hinside, fun i dev hi zoned => ?_⟩
    have hsource := account.trace.holds_iff laid hinside hi
    rw [← account.trace.takenFrom_eq hi zoned, ← startsIn_eq_takenFrom hsource,
      ← account.zones_eq]
    exact (hown i dev hi).count
  · rintro ⟨hinside, henough⟩ i dev hi
    exact account.ownZones_of_inside laid counted hinside hi (henough i dev hi)

theorem ownZones_iff_cacheAndZoned :
    LaidOut cacheAndZoned ∧ Counted 256 cacheAndZoned ∧
      (collectZones "c+z" cacheAndZoned 256 (.scripted twoBatches)).result =
        .ok cacheAndZonedZones ∧
      ∃ passes, Account cacheAndZoned 256 (.scripted twoBatches) passes cacheAndZonedZones ∧
        ((∀ i dev, cacheAndZoned[i]? = some dev →
            OwnZones (.scripted twoBatches) passes cacheAndZonedZones i dev) ↔
          let exchanges := answers (.scripted twoBatches)
            (collectZones "c+z" cacheAndZoned 256 (.scripted twoBatches)).asked
          (∀ query raws, (query, raws) ∈ exchanges → Fits cacheAndZoned query raws) ∧
            ∀ i dev, cacheAndZoned[i]? = some dev → dev.model.isZoned = true →
              (descriptorsOf i exchanges).length = dev.zoneCount) :=
  have laid : LaidOut cacheAndZoned := by decide
  have counted : Counted 256 cacheAndZoned := by decide
  ⟨laid, counted, collectZones_cacheAndZoned,
    ownZones_iff laid counted collectZones_cacheAndZoned⟩

/-- A zoned device of one zone, and behind it a regular device of one zone. -/
def zonedThenRegular : List Member :=
  [⟨"z", .hostManaged, 256, 1, 0⟩, ⟨"r", .regular, 256, 1, 32⟩]

/-- The zoned device reports a zone too many. -/
def overrun : List (List Descriptor) :=
  [[⟨0, 256, 0, 256, 2, 1, 0, 0⟩, ⟨256, 256, 256, 256, 2, 1, 0, 0⟩]]

def overrunZones : Array Zone :=
  #[⟨0, 256, 256, some 0, .sequentialRequired, .empty, false, false⟩,
    ⟨256, 256, 256, some 256, .sequentialRequired, .empty, false, false⟩]

/-- In the span of a regular device there may be a zone that is not emulated. -/
theorem overrun_not_emulated :
    LaidOut zonedThenRegular ∧ Counted 256 zonedThenRegular ∧
      (collectZones "z+r" zonedThenRegular 256 (.scripted overrun)).result = .ok overrunZones ∧
      ∃ dev ∈ zonedThenRegular, dev.model.isZoned = false ∧
        ∃ z ∈ overrunZones.toList, dev.Holds z.start ∧ z ≠ .emulated z.start z.length := by
  refine ⟨by decide, by decide, ?_, by decide⟩
  exact collectZones_of_followScript (show overrunZones.toList =
    zonesOf (followScript zonedThenRegular 256 overrun 1 []) by decide) (by decide)

end ZonedSet
