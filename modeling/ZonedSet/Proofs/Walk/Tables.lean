/-
ZonedSet.Proofs.Walk.Tables — what a walk collects when its zoned devices answer from tables.

A table holds descriptors that tile the device (`AnswersFrom`). Asked at the start of one of them,
the device gives some of the descriptors from there on, and elsewhere it may answer as it likes. A
walk that gives zones has never asked elsewhere: at every device that is next, the front cuts the
table between two descriptors (`OnTables`). A step keeps that. Within a device it moves the cut by
its answer, and past the device's end it comes to the start of the next one.

So the answers of such a walk go on from where they were asked, and stay within their devices. The
zones tile the space, then, and every zone lies in one device (`Account.divides`).
-/
import ZonedSet.Proofs.Walk.Acceptance
import ZonedSet.Proofs.Walk.Contribution

namespace ZonedSet

variable {devices : List Member} {zoneSectors : Nat} {report : Reporter} {passes : List Pass}
  {p : Pass} {i start : Nat} {dev : Member} {table : List RawZone}

/-! ## Tables -/

/-- The device at an index answers from a table of descriptors that tile it: asked at the start of
one, it gives a run of them, beginning with that one. An answer may be an error, or empty. -/
structure AnswersFrom (report : Reporter) (i : Nat) (dev : Member) (table : List RawZone) :
    Prop where
  tiles : Tiles 0 (table.map RawZone.extent) dev.capacity
  run : ∀ earlier j raw buffer, table[j]? = some raw →
    report earlier ⟨i, raw.start⟩ (.prepare raw.start) = .ok buffer →
      buffer.zones <+: table.drop j

/-- A tiling that has something to tile has a first descriptor. -/
theorem Tiles.exists_head {first stop : Nat} {raws : List RawZone}
    (h : Tiles first (raws.map RawZone.extent) stop) (hlt : first < stop) :
    ∃ raw rest, raws = raw :: rest ∧ raw.start = first := by
  cases raws with
  | nil =>
    have : first = stop := h
    omega
  | cons raw rest => exact ⟨raw, rest, rfl, h.1⟩

/-- An answer at a cut of the table goes from there to a later cut. -/
theorem AnswersFrom.cut (answers : AnswersFrom report i dev table) {j : Nat}
    (hcut : Tiles start ((table.drop j).map RawZone.extent) dev.capacity)
    (hlt : start < dev.capacity) {earlier : List Query} {buffer : ReportBuffer}
    (hanswer : report earlier ⟨i, start⟩ (.prepare start) = .ok buffer) {raws : List RawZone}
    (holds : buffer.zones = raws) :
    ∃ mid k, Tiles start (raws.map RawZone.extent) mid ∧
      Tiles mid ((table.drop k).map RawZone.extent) dev.capacity := by
  obtain ⟨raw, rest, hdrop, rfl⟩ := hcut.exists_head hlt
  have hraw : table[j]? = some raw := by rw [← List.head?_drop, hdrop, List.head?_cons]
  have hprefix := answers.run earlier j raw buffer hraw hanswer
  rw [holds] at hprefix
  obtain ⟨more, hmore⟩ := hprefix
  have hlater : more = table.drop (j + raws.length) := by
    rw [← List.drop_drop, ← hmore, List.drop_left]
  rw [← hmore, List.map_append] at hcut
  obtain ⟨mid, hrun, hmid⟩ := tiles_append.mp hcut
  exact ⟨mid, _, hrun, hlater ▸ hmid⟩

/-! ## The front -/

/-- Zones that tile a stretch bring the front to its end. -/
theorem front_append_of_tiles {first stop : Nat} (hne : p.zones ≠ [])
    (h : Tiles first (p.zones.map Zone.extent) stop) :
    front (passes ++ [p]) = stop := by
  obtain ⟨before, z, hlast⟩ : ∃ before z, p.zones = before ++ [z] :=
    ⟨_, _, (List.dropLast_concat_getLast hne).symm⟩
  rw [hlast] at h
  rw [front_append hlast, h.last_stop]

/-- A pass that ends at another device than its own ends at the start of that one. -/
theorem Step.front_eq_of_ne (laid : LaidOut devices) (hpos : 0 < zoneSectors)
    (step : Step devices zoneSectors report passes p) (hinside : p.Inside devices)
    (hi : devices[i]? = some dev) (hne : i ≠ p.device)
    (hholds : dev.Holds (front (passes ++ [p]))) :
    front (passes ++ [p]) = dev.sectorOffset := by
  obtain ⟨other, hother, -, hlt, hle⟩ := step.front_le laid hpos hinside
  obtain ⟨hge, hstop⟩ := hholds
  rcases Nat.lt_or_gt_of_ne hne with hbefore | hafter
  · have := laid.stop_le hi hother hbefore
    omega
  · have := laid.stop_le hother hi hafter
    omega

/-! ## The walk -/

/-- A pass asks its device if that is zoned, and only then. -/
theorem Step.isZoned_iff (step : Step devices zoneSectors report passes p)
    (hi : devices[p.device]? = some dev) :
    dev.model.isZoned = true ↔ ∃ query raws, p.exchange? = some (query, raws) := by
  cases step with
  | emulated turn regular =>
    obtain rfl := turn.device_eq hi
    simp [regular, Pass.exchange?]
  | reported turn zoned =>
    obtain rfl := turn.device_eq hi
    simp [zoned, Pass.exchange?]

/-- The front cuts every table from which the zoned device that holds it answers. -/
def OnTables (devices : List Member) (report : Reporter) (front : Nat) : Prop :=
  ∀ i dev table, devices[i]? = some dev → dev.model.isZoned = true →
    AnswersFrom report i dev table → dev.Holds front →
      ∃ j, Tiles (front - dev.sectorOffset) ((table.drop j).map RawZone.extent) dev.capacity

/-- The start of a device cuts its table. -/
theorem AnswersFrom.cut_start (answers : AnswersFrom report i dev table) {front : Nat}
    (hfront : front ≤ dev.sectorOffset) :
    ∃ j, Tiles (front - dev.sectorOffset) ((table.drop j).map RawZone.extent) dev.capacity := by
  refine ⟨0, ?_⟩
  rw [Nat.sub_eq_zero_of_le hfront]
  exact answers.tiles

/-- The answer of a pass at a cut goes on from there, up to a cut within the same device. -/
theorem Step.exists_cut (laid : LaidOut devices) (on : OnTables devices report (front passes))
    (step : Step devices zoneSectors report passes p) {query : Query} {raws : List RawZone}
    (hexchange : p.exchange? = some (query, raws)) (hi : devices[p.device]? = some dev)
    (answers : AnswersFrom report p.device dev table) :
    query.device = p.device ∧ ∃ mid j, Tiles query.sector (raws.map RawZone.extent) mid ∧
      Tiles mid ((table.drop j).map RawZone.extent) dev.capacity ∧
      front (passes ++ [p]) = mid + dev.sectorOffset := by
  cases step with
  | emulated => cases hexchange
  | @reported i start other buffer raws turn zoned hanswer holds nonempty room takes =>
    cases hexchange
    obtain rfl := turn.device_eq hi
    obtain ⟨hholds, rfl⟩ := turn.holds laid
    obtain ⟨j, hcut⟩ := on _ _ table turn.device zoned answers hholds
    have hlocal : front passes - other.sectorOffset < other.capacity := by
      obtain ⟨hge, hlt⟩ := hholds
      rw [Member.stop] at hlt
      omega
    obtain ⟨mid, k, hrun, hmid⟩ := answers.cut hcut hlocal hanswer holds
    refine ⟨rfl, mid, k, hrun, hmid, ?_⟩
    have hne : Pass.zones (.reported ⟨i, front passes - other.sectorOffset⟩ raws
        (raws.map (·.toZone other.sectorOffset))) ≠ [] := mt List.map_eq_nil_iff.mp nonempty
    exact front_append_of_tiles hne (tiles_toZone.mpr hrun)

section

variable (laid : LaidOut devices) (hpos : 0 < zoneSectors)
  (tabled : ∀ i dev, devices[i]? = some dev → dev.model.isZoned = true →
    ∃ table, AnswersFrom report i dev table)
include laid hpos tabled

/-- **One step.** The answer of the next pass goes on from the sector asked for, and fits its
device, and the front is on the tables again. -/
theorem Step.onTables (on : OnTables devices report (front passes))
    (step : Step devices zoneSectors report passes p) :
    (∀ query raws, p.exchange? = some (query, raws) →
      Continues devices query raws ∧ Fits devices query raws) ∧
    OnTables devices report (front (passes ++ [p])) := by
  have hanswer : ∀ query raws, p.exchange? = some (query, raws) →
      Continues devices query raws ∧ Fits devices query raws := by
    intro query raws hexchange
    obtain ⟨start, dev, turn⟩ := step.exists_turn
    have zoned := (step.isZoned_iff turn.device).mpr ⟨query, raws, hexchange⟩
    obtain ⟨table, answers⟩ := tabled _ dev turn.device zoned
    obtain ⟨hdevice, mid, j, hrun, hmid, -⟩ :=
      step.exists_cut laid on hexchange turn.device answers
    have hle := hmid.le
    have htotal := laid.stop_le_total turn.device
    rw [Member.stop] at htotal
    refine ⟨⟨dev, mid, hdevice ▸ turn.device, hrun, by omega⟩, fun other hother raw hraw => ?_⟩
    obtain rfl := turn.device_eq (hdevice ▸ hother)
    have : raw.start + raw.length ≤ mid := (hrun.between (List.mem_map_of_mem hraw)).2
    omega
  have hinside := (step.inside_iff laid).mpr fun query raws h => (hanswer query raws h).2
  refine ⟨hanswer, fun i dev table hi zoned answers hholds => ?_⟩
  by_cases hne : i = p.device
  · subst hne
    obtain ⟨query, raws, hexchange⟩ := (step.isZoned_iff hi).mp zoned
    obtain ⟨-, mid, j, -, hmid, hfront⟩ := step.exists_cut laid on hexchange hi answers
    exact ⟨j, by rwa [hfront, Nat.add_sub_cancel]⟩
  · have hstart := step.front_eq_of_ne laid hpos hinside hi hne hholds
    exact answers.cut_start (Nat.le_of_eq hstart)

/-- **A run.** All answers go on from where they were asked, and fit their devices. -/
theorem Trace.onTables (trace : Trace devices zoneSectors report passes) :
    (∀ p ∈ passes, ∀ query raws, p.exchange? = some (query, raws) →
      Continues devices query raws ∧ Fits devices query raws) ∧
    OnTables devices report (front passes) := by
  induction trace with
  | start =>
    refine ⟨by simp, fun i dev table _ _ answers _ => ?_⟩
    exact answers.cut_start (Nat.zero_le _)
  | step trace step ih =>
    obtain ⟨hbefore, on⟩ := ih
    obtain ⟨hp, hfront⟩ := step.onTables laid hpos tabled on
    exact ⟨List.forall_mem_append.mpr ⟨hbefore, List.forall_mem_singleton.mpr hp⟩, hfront⟩

end

/-- The zone lies on the device, and is as long as all zones unless it is the device's last. -/
structure Zone.Within (dev : Member) (zoneSectors : Nat) (z : Zone) : Prop where
  holds : dev.Holds z.start
  stop_le : z.start + z.length ≤ dev.stop
  length_pos : 0 < z.length
  length_eq : z.length = zoneSectors ∨ z.start + z.length = dev.stop

/-- The zones divide the space: they tile it, and every one lies on a device. -/
structure Divides (devices : List Member) (zoneSectors : Nat) (zones : Array Zone) : Prop where
  tiles : Tiles 0 (zones.toList.map Zone.extent) (totalCapacity devices)
  within : ∀ z ∈ zones.toList, ∃ (i : Nat) (dev : Member), devices[i]? = some dev ∧
    z.Within dev zoneSectors

theorem Divides.length_pos {zones : Array Zone} (divides : Divides devices zoneSectors zones)
    {z : Zone} (hz : z ∈ zones.toList) : 0 < z.length := by
  obtain ⟨i, dev, -, within⟩ := divides.within z hz
  exact within.length_pos

/-- **Devices with tables let the zones of a walk divide the space.** -/
theorem Account.divides (laid : LaidOut devices) (hpos : 0 < zoneSectors)
    (tabled : ∀ i dev, devices[i]? = some dev → dev.model.isZoned = true →
      ∃ table, AnswersFrom report i dev table) {zones : Array Zone}
    (account : Account devices zoneSectors report passes zones) :
    Divides devices zoneSectors zones := by
  obtain ⟨hanswers, -⟩ := account.trace.onTables laid hpos tabled
  constructor
  · exact account.tiles_iff.mpr ((account.trace.tiles_iff laid).mpr
      fun p hp query raws h => (hanswers p hp query raws h).1)
  · intro z hz
    obtain ⟨p, hp, hz, earlier, step⟩ := account.exists_step hz
    obtain ⟨dev, hdev, hvalid⟩ := step.validIn laid hpos
    have hinside := (step.inside_iff laid).mpr fun query raws h => (hanswers p hp query raws h).2
    obtain ⟨hholds, hstop⟩ := hinside dev hdev z hz
    exact ⟨p.device, dev, hdev, hholds, hstop, (hvalid z hz).length_pos, (hvalid z hz).length_eq⟩

end ZonedSet
