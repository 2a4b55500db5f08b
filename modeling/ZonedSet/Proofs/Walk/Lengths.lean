/-
ZonedSet.Proofs.Walk.Lengths — how long the zones of a set are.

A descriptor may have another length than the common one if it ends where its device ends. This is
there for a last zone that is shorter, but the check asks for a different length, not for a shorter
one. So what stands against a zone that is too long is the number of zones alone, and a walk that
takes some sectors twice can make that number up.

A zone that is too long leaves too few zones for the rest, as long as no sector is taken twice or
left out. The measure is the number of zones that are still needed from a sector on, if every device
is covered on its own (`neededFrom`). A zone takes at least one off it, and a zone that is too long
at least two (`LaidOut.neededFrom_zone`). It begins at the number of zones of the set, so a tiling
with that many zones has none that is too long (`Tiles.length_le`).
-/
import ZonedSet.Proofs.Walk.Tiling
import ZonedSet.Proofs.Walk.Validation

namespace ZonedSet

variable {label : String} {devices : List Member} {zoneSectors : Nat} {report : Reporter}
  {passes : List Pass} {p : Pass} {i sector later : Nat} {dev : Member}

/-! ## Zones still needed -/

/-- The number of zones that it takes to cover a device from a global sector on. -/
def Member.needed (zoneSectors sector : Nat) (d : Member) : Nat :=
  (min d.capacity (d.stop - sector) + zoneSectors - 1) / zoneSectors

/-- The number of zones that it takes to cover all devices from a global sector on. -/
def neededFrom (zoneSectors sector : Nat) : List Member → Nat
  | [] => 0
  | d :: rest => d.needed zoneSectors sector + neededFrom zoneSectors sector rest

theorem Member.needed_le (h : sector ≤ later) :
    dev.needed zoneSectors later ≤ dev.needed zoneSectors sector :=
  Nat.div_le_div_right (by omega)

/-- A zone's length further on, a device needs a zone less. -/
theorem Member.needed_add_lt (hpos : 0 < zoneSectors) (hholds : dev.Holds sector) :
    dev.needed zoneSectors (sector + zoneSectors) < dev.needed zoneSectors sector := by
  obtain ⟨hge, hlt⟩ := hholds
  have hstop : dev.stop = dev.sectorOffset + dev.capacity := rfl
  have hrest : min dev.capacity (dev.stop - sector) + zoneSectors - 1 =
      (dev.stop - sector - 1) + zoneSectors := by omega
  rw [needed, needed, hrest, Nat.add_div_right _ hpos, Nat.lt_succ_iff]
  by_cases hmore : sector + zoneSectors ≤ dev.stop
  · exact Nat.div_le_div_right (by omega)
  · have hnone : (min dev.capacity (dev.stop - (sector + zoneSectors)) + zoneSectors - 1) /
        zoneSectors = 0 := Nat.div_eq_of_lt (by omega)
    rw [hnone]
    exact Nat.zero_le _

/-- From its end on, a device needs no zone. -/
theorem Member.needed_eq_zero (hpos : 0 < zoneSectors) (h : dev.stop ≤ sector) :
    dev.needed zoneSectors sector = 0 :=
  Nat.div_eq_of_lt (by omega)

theorem neededFrom_le (h : sector ≤ later) :
    neededFrom zoneSectors later devices ≤ neededFrom zoneSectors sector devices := by
  induction devices with
  | nil => exact Nat.le_refl _
  | cons d rest ih =>
    have hd : d.needed zoneSectors later ≤ d.needed zoneSectors sector := Member.needed_le h
    simp only [neededFrom]
    omega

/-- If a device needs less, all devices together do. -/
theorem neededFrom_lt (h : sector ≤ later) (hdev : dev ∈ devices)
    (hlt : dev.needed zoneSectors later < dev.needed zoneSectors sector) :
    neededFrom zoneSectors later devices < neededFrom zoneSectors sector devices := by
  induction devices with
  | nil => cases hdev
  | cons d rest ih =>
    simp only [neededFrom]
    rcases List.mem_cons.mp hdev with rfl | hdev
    · have hrest : neededFrom zoneSectors later rest ≤ neededFrom zoneSectors sector rest :=
        neededFrom_le h
      omega
    · have hd : d.needed zoneSectors later ≤ d.needed zoneSectors sector := Member.needed_le h
      have := ih hdev
      omega

/-- At the start of the space, all zones are needed. -/
theorem neededFrom_zero (counted : Counted zoneSectors devices) :
    neededFrom zoneSectors 0 devices = totalZones devices := by
  induction devices with
  | nil => rfl
  | cons d rest ih =>
    obtain ⟨hd, hrest⟩ := List.forall_mem_cons.mp counted
    have hpos := pos_of_pieces? hd
    have hstop : d.stop = d.sectorOffset + d.capacity := rfl
    rw [pieces?, if_neg (by omega), Option.some.injEq] at hd
    rw [neededFrom, totalZones_cons, ih hrest, Member.needed, Nat.min_eq_left (by omega), hd]

namespace LaidOut

variable (laid : LaidOut devices) (hpos : 0 < zoneSectors)
include laid hpos

theorem neededFrom_add_lt (hs : sector < totalCapacity devices) :
    neededFrom zoneSectors (sector + zoneSectors) devices <
      neededFrom zoneSectors sector devices := by
  obtain ⟨i, dev, hi, hholds⟩ := laid.exists_holds hs
  exact neededFrom_lt (Nat.le_add_right _ _) (List.mem_of_getElem? hi)
    (Member.needed_add_lt hpos hholds)

/-- Up to the end of a device there is a zone needed. -/
theorem neededFrom_stop_lt (hi : devices[i]? = some dev) (hs : sector < dev.stop) :
    neededFrom zoneSectors dev.stop devices < neededFrom zoneSectors sector devices := by
  obtain ⟨j, other, hj, hholds⟩ :=
    laid.exists_holds (Nat.lt_of_lt_of_le hs (laid.stop_le_total hi))
  -- The device that holds the sector ends no later.
  have hstop : other.stop ≤ dev.stop := by
    have hge := hholds.1
    have hown : dev.stop = dev.sectorOffset + dev.capacity := rfl
    rcases Nat.lt_trichotomy i j with hij | rfl | hji
    · have := laid.stop_le hi hj hij
      omega
    · obtain rfl := Option.some.inj (hi.symm.trans hj)
      exact Nat.le_refl _
    · have := laid.stop_le hj hi hji
      omega
  refine neededFrom_lt (Nat.le_of_lt hs) (List.mem_of_getElem? hj) ?_
  have := Member.needed_add_lt hpos hholds
  rw [Member.needed_eq_zero hpos hstop]
  omega

/-- **One zone.** It takes at least one off the zones that are needed, and if it is longer than all
zones should be, at least two. -/
theorem neededFrom_zone {length : Nat} (hlength : 0 < length)
    (hle : sector + length ≤ totalCapacity devices)
    (hend : length = zoneSectors ∨
      ∃ (i : Nat) (dev : Member), devices[i]? = some dev ∧ sector + length = dev.stop) :
    neededFrom zoneSectors (sector + length) devices + (if zoneSectors < length then 2 else 1) ≤
      neededFrom zoneSectors sector devices := by
  have hone : neededFrom zoneSectors (sector + length) devices <
      neededFrom zoneSectors sector devices := by
    rcases hend with rfl | ⟨i, dev, hi, hstop⟩
    · exact laid.neededFrom_add_lt hpos (by omega)
    · rw [hstop]
      exact laid.neededFrom_stop_lt hpos hi (by omega)
  split
  · rename_i hlong
    obtain ⟨i, dev, hi, hstop⟩ := hend.resolve_left (by omega)
    have hfirst := laid.neededFrom_add_lt hpos (show sector < totalCapacity devices by omega)
    have hrest := laid.neededFrom_stop_lt hpos hi
      (show sector + zoneSectors < dev.stop by omega)
    rw [← hstop] at hrest
    omega
  · omega

end LaidOut

/-! ## Tilings -/

/-- The extent is as long as all, or it ends where a device ends. -/
def Extent.Sized (devices : List Member) (zoneSectors : Nat) (e : Extent) : Prop :=
  0 < e.length ∧ (e.length = zoneSectors ∨
    ∃ (i : Nat) (dev : Member), devices[i]? = some dev ∧ e.start + e.length = dev.stop)

/-- **A run of zones.** Those that are too long count twice. -/
theorem Tiles.length_add_neededFrom_le (laid : LaidOut devices) (hpos : 0 < zoneSectors)
    {first stop : Nat} {es : List Extent} (h : Tiles first es stop)
    (hle : stop ≤ totalCapacity devices) (sized : ∀ e ∈ es, e.Sized devices zoneSectors) :
    es.length + es.countP (fun e => zoneSectors < e.length) +
        neededFrom zoneSectors stop devices ≤ neededFrom zoneSectors first devices := by
  induction es generalizing first with
  | nil =>
    obtain rfl : first = stop := h
    simp
  | cons e rest ih =>
    obtain ⟨rfl, hrest⟩ := h
    obtain ⟨⟨hlength, hend⟩, sized⟩ := List.forall_mem_cons.mp sized
    have hzone := laid.neededFrom_zone hpos hlength (Nat.le_trans hrest.le hle) hend
    have ih := ih hrest sized
    rw [List.length_cons, List.countP_cons]
    simp only [decide_eq_true_eq]
    split at hzone <;> rename_i hlong
    · rw [if_pos hlong]
      omega
    · rw [if_neg hlong]
      omega

/-- A tiling of the space with no more zones than are needed has none that is too long. -/
theorem Tiles.length_le (laid : LaidOut devices) (counted : Counted zoneSectors devices)
    (hpos : 0 < zoneSectors) {es : List Extent} (h : Tiles 0 es (totalCapacity devices))
    (sized : ∀ e ∈ es, e.Sized devices zoneSectors) (hcount : es.length = totalZones devices) :
    ∀ e ∈ es, e.length ≤ zoneSectors := by
  have hrun := h.length_add_neededFrom_le laid hpos (Nat.le_refl _) sized
  rw [neededFrom_zero counted] at hrun
  have hnone : es.countP (fun e => zoneSectors < e.length) = 0 := by omega
  intro e he
  have := List.countP_eq_zero.mp hnone e he
  simpa using this

/-! ## The zones of a walk -/

/-- A zone of another length than all ends where its device ends, and if it is longer, the device
reported it. -/
theorem Step.length_ne (laid : LaidOut devices)
    (step : Step devices zoneSectors report passes p) :
    ∃ dev, devices[p.device]? = some dev ∧ ∀ z ∈ p.zones, z.length ≠ zoneSectors →
      dev.sectorOffset ≤ z.start ∧ z.start + z.length = dev.stop ∧
        (zoneSectors < z.length → dev.model.isZoned = true) := by
  cases step with
  | @emulated i start dev turn regular inside room fits =>
    refine ⟨dev, turn.device, fun z hz hne => ?_⟩
    obtain rfl := List.mem_singleton.mp hz
    obtain ⟨⟨hge, hlt⟩, -⟩ := turn.holds laid
    rw [turn.rest_eq laid] at hne ⊢
    simp only [Zone.emulated] at hne ⊢
    omega
  | @reported i start dev buffer raws turn zoned answer holds nonempty room takes =>
    refine ⟨dev, turn.device, fun z hz hne => ?_⟩
    obtain ⟨raw, hraw, rfl⟩ := List.mem_map.mp hz
    have hstop := (takes raw hraw).length_eq.resolve_left hne
    simp only [RawZone.toZone, Member.stop]
    exact ⟨Nat.le_add_left _ _, by omega, fun _ => zoned⟩

/-- The zones of a step are no longer than all if and only if its descriptors are not. -/
theorem Step.length_le_iff (step : Step devices zoneSectors report passes p) :
    (∀ z ∈ p.zones, z.length ≤ zoneSectors) ↔
      ∀ query raws, p.exchange? = some (query, raws) → ∀ raw ∈ raws, raw.length ≤ zoneSectors := by
  cases step with
  | emulated =>
    refine iff_of_true (fun z hz => ?_) fun query raws hexchange => nomatch hexchange
    obtain rfl := List.mem_singleton.mp hz
    exact Nat.min_le_left _ _
  | reported =>
    constructor
    · intro h query raws hexchange raw hraw
      cases hexchange
      exact h _ (List.mem_map_of_mem hraw)
    · intro h z hz
      obtain ⟨raw, hraw, rfl⟩ := List.mem_map.mp hz
      exact h _ _ rfl raw hraw

section

variable {zones : Array Zone} (account : Account devices zoneSectors report passes zones)
include account

/-- The same of all zones. -/
theorem Account.length_le_iff :
    (∀ z ∈ zones.toList, z.length ≤ zoneSectors) ↔
      ∀ query raws, (query, raws) ∈ answers report (askedIn passes) →
        ∀ raw ∈ raws, raw.length ≤ zoneSectors :=
  account.forall_zones_iff fun _ _ step => step.length_le_iff

/-- Zones that tile the space are no longer than all. -/
theorem Account.length_le (laid : LaidOut devices) (counted : Counted zoneSectors devices)
    (tiles : Tiles 0 (zones.toList.map Zone.extent) (totalCapacity devices)) :
    ∀ z ∈ zones.toList, z.length ≤ zoneSectors := by
  have hvalid : ∀ z ∈ zones.toList, 0 < zoneSectors ∧ z.extent.Sized devices zoneSectors := by
    intro z hz
    obtain ⟨p, hp, hz, earlier, step⟩ := account.exists_step hz
    obtain ⟨start, next, turn⟩ := step.exists_turn
    have hpos := pos_of_pieces? (counted next (List.mem_of_getElem? turn.device))
    obtain ⟨dev, hdev, valid⟩ := step.validIn laid hpos
    exact ⟨hpos, (valid z hz).length_pos,
      (valid z hz).length_eq.imp_right fun hstop => ⟨p.device, dev, hdev, hstop⟩⟩
  intro z hz
  refine tiles.length_le laid counted (hvalid z hz).1 (fun e he => ?_) ?_ z.extent
    (List.mem_map_of_mem hz)
  · obtain ⟨w, hw, rfl⟩ := List.mem_map.mp he
    exact (hvalid w hw).2
  · simpa using account.size_eq

end

/-- **How long the zones of a set are.** A zone of another length than the common one ends where its
device ends, and no emulated zone is longer. The zones are all no longer if and only if the
descriptors of the walk are, and that is so whenever every answer went on from the sector asked for,
without a gap or an overlap, and not past the end of the space. -/
theorem collectZones_lengths (laid : LaidOut devices) {zones : Array Zone}
    (h : (collectZones label devices zoneSectors report).result = .ok zones) :
    ∃ passes, Account devices zoneSectors report passes zones ∧
      (∀ p ∈ passes, ∃ dev, devices[p.device]? = some dev ∧
        ∀ z ∈ p.zones, z.length ≠ zoneSectors →
          dev.sectorOffset ≤ z.start ∧ z.start + z.length = dev.stop ∧
            (zoneSectors < z.length → dev.model.isZoned = true)) ∧
      let exchanges := answers report (collectZones label devices zoneSectors report).asked
      ((∀ z ∈ zones.toList, z.length ≤ zoneSectors) ↔
        ∀ query raws, (query, raws) ∈ exchanges → ∀ raw ∈ raws, raw.length ≤ zoneSectors) ∧
      (Counted zoneSectors devices →
        (∀ query raws, (query, raws) ∈ exchanges → Continues devices query raws) →
          ∀ z ∈ zones.toList, z.length ≤ zoneSectors) := by
  obtain ⟨passes, account⟩ := exists_account h
  rw [collectZones_of_account account]
  refine ⟨passes, account, fun p hp => ?_, account.length_le_iff, fun counted hcontinues => ?_⟩
  · obtain ⟨earlier, step⟩ := account.trace.exists_step hp
    exact step.length_ne laid
  · have hpasses := account.trace.forall_answers_iff.mp hcontinues
    have htiles := account.tiles_iff.mpr ((account.trace.tiles_iff laid).mpr hpasses)
    exact account.length_le laid counted htiles

theorem collectZones_lengths_cacheAndZoned :
    LaidOut cacheAndZoned ∧
      (collectZones "c+z" cacheAndZoned 256 (.scripted twoBatches)).result =
        .ok cacheAndZonedZones ∧
      ∃ passes, Account cacheAndZoned 256 (.scripted twoBatches) passes cacheAndZonedZones ∧
        (∀ p ∈ passes, ∃ dev, cacheAndZoned[p.device]? = some dev ∧
          ∀ z ∈ p.zones, z.length ≠ 256 →
            dev.sectorOffset ≤ z.start ∧ z.start + z.length = dev.stop ∧
              (256 < z.length → dev.model.isZoned = true)) ∧
        let exchanges := answers (.scripted twoBatches)
          (collectZones "c+z" cacheAndZoned 256 (.scripted twoBatches)).asked
        ((∀ z ∈ cacheAndZonedZones.toList, z.length ≤ 256) ↔
          ∀ query raws, (query, raws) ∈ exchanges → ∀ raw ∈ raws, raw.length ≤ 256) ∧
        (Counted 256 cacheAndZoned →
          (∀ query raws, (query, raws) ∈ exchanges → Continues cacheAndZoned query raws) →
            ∀ z ∈ cacheAndZonedZones.toList, z.length ≤ 256) :=
  have laid : LaidOut cacheAndZoned := by decide
  ⟨laid, collectZones_cacheAndZoned, collectZones_lengths laid collectZones_cacheAndZoned⟩

/-- The device reports its second zone, and then one that takes up all of it. -/
def wholeAsSecond : List (List Descriptor) :=
  [[⟨256, 256, 256, 256, 2, 1, 0, 0⟩, ⟨0, 512, 0, 512, 2, 1, 0, 0⟩]]

def wholeAsSecondZones : Array Zone :=
  #[⟨256, 256, 256, some 256, .sequentialRequired, .empty, false, false⟩,
    ⟨0, 512, 512, some 0, .sequentialRequired, .empty, false, false⟩]

/-- A zone may be longer than the common length. -/
theorem wholeAsSecond_too_long :
    LaidOut twoZones ∧ Counted 256 twoZones ∧
      (collectZones "z" twoZones 256 (.scripted wholeAsSecond)).result =
        .ok wholeAsSecondZones ∧
      ∃ z ∈ wholeAsSecondZones.toList, 256 < z.length := by
  refine ⟨by decide, by decide, ?_, by decide⟩
  exact collectZones_of_followScript (show wholeAsSecondZones.toList =
    zonesOf (followScript twoZones 256 wholeAsSecond 1 []) by decide) (by decide)

end ZonedSet
