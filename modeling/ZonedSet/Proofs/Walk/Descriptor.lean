/-
ZonedSet.Proofs.Walk.Descriptor — what passes the check of a reported zone, and as what.

`checkZone_eq_ok_iff` says everything that the check does on success: the zone has a free number,
the descriptor meets the demands of `Member.Accepts`, and the zone is the descriptor moved by its
device's offset (`RawZone.toZone`). For the walk to go on, the zone also has to end at a word
(`RawZone.FitsAt`). `takeZones_eq_ok_iff` says the same of a whole answer. Nothing after these two
unfolds the check.

Note what `Member.Accepts` does not ask: that the descriptor begins at the sector asked for, or
where the one before it ended. Nor does it ask where the zone ends once it is moved.
-/
import ZonedSet.Report.Walk

namespace ZonedSet

/-! ## Moving a descriptor -/

/-- The zone that a descriptor describes, moved by its device's offset. A condition without a
meaning, which the check refuses, is read as that of an emulated zone. -/
def RawZone.toZone (raw : RawZone) (offset : Nat) : Zone where
  start := raw.start + offset
  length := raw.length
  capacity := raw.effectiveCapacity
  writePointer :=
    if ZoneType.ofCode raw.typeCode = .conventional then none
    else some (raw.writePointer + offset)
  type := ZoneType.ofCode raw.typeCode
  condition := (ZoneCondition.ofCode? raw.conditionCode).getD .notWritePointer
  needsReset := raw.reset
  nonSequential := raw.nonSequential

/-- What the check asks of a descriptor, apart from a free number. -/
structure Member.Accepts (dev : Member) (zoneSectors : Nat) (raw : RawZone) : Prop where
  stop_lt : raw.start + raw.length < Word.limit
  length_pos : 0 < raw.length
  length_eq : raw.length = zoneSectors ∨ raw.start + raw.length = dev.capacity
  roomy : raw.length ≤ raw.effectiveCapacity
  known : (ZoneCondition.ofCode? raw.conditionCode).isSome
  start_lt : raw.start + dev.sectorOffset < Word.limit
  pointer_lt : ZoneType.ofCode raw.typeCode ≠ .conventional →
    raw.writePointer + dev.sectorOffset < Word.limit

/-- The descriptor ends at a word also when it is moved by an offset. -/
def RawZone.FitsAt (offset : Nat) (raw : RawZone) : Prop :=
  raw.start + raw.length + offset < Word.limit

theorem RawZone.toZone_fits_iff {offset : Nat} {raw : RawZone} :
    (raw.toZone offset).start + (raw.toZone offset).length < Word.limit ↔ raw.FitsAt offset := by
  simp only [RawZone.toZone, RawZone.FitsAt]
  omega

/-- What the walk asks of a descriptor to take it over and go on. -/
structure Member.Takes (dev : Member) (zoneSectors : Nat) (raw : RawZone) : Prop
    extends dev.Accepts zoneSectors raw where
  fits : raw.FitsAt dev.sectorOffset

/-! ## One descriptor -/

theorem checkZone_ok {dev : Member} {index total zoneSectors : Nat} {raw : RawZone} {z : Zone}
    (h : checkZone dev index total zoneSectors raw = .ok z) :
    index < total ∧ dev.Accepts zoneSectors raw ∧ z = raw.toZone dev.sectorOffset := by
  unfold checkZone at h
  dsimp only at h
  split at h
  · cases h
  rename_i localStop hstop
  obtain ⟨rfl, hstop⟩ := Word.add?_eq_some_iff.mp hstop
  split at h
  · cases h
  rename_i hsize
  split at h
  · cases h
  rename_i hroomy
  split at h
  · cases h
  rename_i hindex
  split at h
  · cases h
  rename_i condition hcondition
  split at h
  · cases h
  rename_i start hstart
  obtain ⟨rfl, hstart⟩ := Word.add?_eq_some_iff.mp hstart
  split at h
  · rename_i hconv
    cases h
    refine ⟨by omega, ⟨hstop, by omega, by omega, by omega, by simp [hcondition], hstart,
      fun hne => absurd hconv hne⟩, ?_⟩
    simp [RawZone.toZone, hconv, hcondition]
  · rename_i hconv
    split at h
    · cases h
    rename_i pointer hpointer
    obtain ⟨rfl, hpointer⟩ := Word.add?_eq_some_iff.mp hpointer
    cases h
    refine ⟨by omega, ⟨hstop, by omega, by omega, by omega, by simp [hcondition], hstart,
      fun _ => hpointer⟩, ?_⟩
    simp [RawZone.toZone, hconv, hcondition]

theorem checkZone_of_accepts {dev : Member} {index total zoneSectors : Nat} {raw : RawZone}
    (hindex : index < total) (h : dev.Accepts zoneSectors raw) :
    checkZone dev index total zoneSectors raw = .ok (raw.toZone dev.sectorOffset) := by
  obtain ⟨condition, hcondition⟩ := Option.isSome_iff_exists.mp h.known
  have hpos := h.length_pos
  have hsize : ¬(raw.length = 0 ∨
      (raw.length ≠ zoneSectors ∧ raw.start + raw.length ≠ dev.capacity)) := by
    have := h.length_eq
    omega
  have hroomy : ¬raw.effectiveCapacity < raw.length := Nat.not_lt.mpr h.roomy
  have hfree : ¬total ≤ index := Nat.not_le.mpr hindex
  unfold checkZone
  simp only [Word.add?_of_lt h.stop_lt, Word.add?_of_lt h.start_lt, if_neg hsize, if_neg hroomy,
    if_neg hfree, hcondition]
  by_cases hconv : ZoneType.ofCode raw.typeCode = .conventional
  · simp [RawZone.toZone, hconv, hcondition]
  · rw [if_neg hconv, Word.add?_of_lt (h.pointer_lt hconv)]
    simp [RawZone.toZone, hconv, hcondition]

/-- **The check, as a whole.** -/
theorem checkZone_eq_ok_iff {dev : Member} {index total zoneSectors : Nat} {raw : RawZone}
    {z : Zone} :
    checkZone dev index total zoneSectors raw = .ok z ↔
      index < total ∧ dev.Accepts zoneSectors raw ∧ z = raw.toZone dev.sectorOffset := by
  constructor
  · exact checkZone_ok
  · rintro ⟨hindex, h, rfl⟩
    exact checkZone_of_accepts hindex h

/-- A zone is refused in the name of its device. -/
theorem checkZone_error {dev : Member} {index total zoneSectors : Nat} {raw : RawZone} {e : Error}
    (h : checkZone dev index total zoneSectors raw = .error e) :
    ∃ detail, e = .geometry dev.name detail := by
  have refused {detail : Mismatch}
      (h : (.error (.geometry dev.name detail) : Except Error Zone) = .error e) :
      ∃ detail, e = .geometry dev.name detail := ⟨detail, (Except.error.inj h).symm⟩
  unfold checkZone at h
  dsimp only at h
  split at h
  · exact refused h
  · split at h
    · exact refused h
    · split at h
      · exact refused h
      · split at h
        · exact refused h
        · split at h
          · exact refused h
          · split at h
            · exact refused h
            · split at h
              · cases h
              · split at h
                · exact refused h
                · cases h

/-! ## An answer -/

/-- A descriptor that the walk takes is taken first, and then the others. -/
theorem takeZones_cons_of_takes {dev : Member} {total zoneSectors : Nat} {zones : Array Zone}
    {raw : RawZone} {rest : List RawZone} (hroom : zones.size < total)
    (h : dev.Takes zoneSectors raw) :
    takeZones dev total zoneSectors zones (raw :: rest) =
      takeZones dev total zoneSectors (zones.push (raw.toZone dev.sectorOffset)) rest := by
  rw [takeZones, checkZone_of_accepts hroom h.toAccepts]
  dsimp only
  rw [pushZone_eq, if_pos (RawZone.toZone_fits_iff.mpr h.fits)]

/-- An answer is taken over whole, or not at all. -/
theorem takeZones_eq_ok_iff {dev : Member} {total zoneSectors : Nat} {zones out : Array Zone}
    {raws : List RawZone} :
    takeZones dev total zoneSectors zones raws = .ok out ↔
      (raws ≠ [] → zones.size + raws.length ≤ total) ∧
        (∀ raw ∈ raws, dev.Takes zoneSectors raw) ∧
        out.toList = zones.toList ++ raws.map (·.toZone dev.sectorOffset) := by
  induction raws generalizing zones with
  | nil =>
    simp only [takeZones, Except.ok.injEq, ne_eq, not_true_eq_false, false_implies,
      List.not_mem_nil, implies_true, List.map_nil, List.append_nil, true_and]
    exact ⟨fun h => by rw [h], fun h => Array.toList_inj.mp h.symm⟩
  | cons raw rest ih =>
    constructor
    · intro h
      obtain ⟨z, hz, hfits, h⟩ := takeZones_cons_ok h
      obtain ⟨hindex, haccepts, rfl⟩ := checkZone_ok hz
      obtain ⟨hroom, hrest, hout⟩ := ih.mp h
      rw [Array.size_push] at hroom
      have htakes : dev.Takes zoneSectors raw := ⟨haccepts, RawZone.toZone_fits_iff.mp hfits⟩
      refine ⟨fun _ => ?_, List.forall_mem_cons.mpr ⟨htakes, hrest⟩, ?_⟩
      · rw [List.length_cons]
        by_cases hne : rest = []
        · rw [hne, List.length_nil]
          omega
        · have := hroom hne
          omega
      · rw [hout]
        simp
    · rintro ⟨hroom, htakes, hout⟩
      obtain ⟨hfirst, hrest⟩ := List.forall_mem_cons.mp htakes
      have hroom := hroom (by simp)
      rw [List.length_cons] at hroom
      rw [takeZones_cons_of_takes (by omega) hfirst]
      refine ih.mpr ⟨fun _ => by rw [Array.size_push]; omega, hrest, ?_⟩
      rw [hout]
      simp

/-! ## A zone that ends past all words -/

/-- In an answer there is a descriptor that passes the check, though its zone does not end at a
word, and the walk takes all those before it. They leave room for one more zone. -/
def Member.Overflows (dev : Member) (zoneSectors room : Nat) (raws : List RawZone) : Prop :=
  ∃ before raw after, raws = before ++ raw :: after ∧ before.length < room ∧
    (∀ r ∈ before, dev.Takes zoneSectors r) ∧ dev.Accepts zoneSectors raw ∧
    ¬raw.FitsAt dev.sectorOffset

theorem Member.Overflows.mono {dev : Member} {zoneSectors room more : Nat} {raws : List RawZone}
    (h : dev.Overflows zoneSectors room raws) (hle : room ≤ more) :
    dev.Overflows zoneSectors more raws := by
  obtain ⟨before, raw, after, hraws, hroom, h⟩ := h
  exact ⟨before, raw, after, hraws, Nat.lt_of_lt_of_le hroom hle, h⟩

theorem Member.overflows_cons_iff {dev : Member} {zoneSectors room : Nat} {raw : RawZone}
    {rest : List RawZone} :
    dev.Overflows zoneSectors room (raw :: rest) ↔
      0 < room ∧ dev.Accepts zoneSectors raw ∧
        (raw.FitsAt dev.sectorOffset → dev.Overflows zoneSectors (room - 1) rest) := by
  constructor
  · rintro ⟨before, last, after, hraws, hroom, htakes, haccepts, hfits⟩
    cases before with
    | nil =>
      obtain ⟨rfl, rfl⟩ := List.cons.inj hraws
      exact ⟨hroom, haccepts, fun h => absurd h hfits⟩
    | cons first before =>
      obtain ⟨rfl, rfl⟩ := List.cons.inj hraws
      obtain ⟨hfirst, htakes⟩ := List.forall_mem_cons.mp htakes
      rw [List.length_cons] at hroom
      exact ⟨by omega, hfirst.toAccepts,
        fun _ => ⟨before, last, after, rfl, by omega, htakes, haccepts, hfits⟩⟩
  · rintro ⟨hroom, haccepts, hrest⟩
    by_cases hfits : raw.FitsAt dev.sectorOffset
    · obtain ⟨before, last, after, rfl, hlength, htakes, hlast⟩ := hrest hfits
      refine ⟨raw :: before, last, after, rfl, ?_, ?_, hlast⟩
      · rw [List.length_cons]
        omega
      · exact List.forall_mem_cons.mpr ⟨⟨haccepts, hfits⟩, htakes⟩
    · exact ⟨[], raw, rest, rfl, hroom, by simp, haccepts, hfits⟩

/-- How taking over an answer fails: a zone is refused in the name of its device, or ends past all
words. -/
theorem takeZones_error {dev : Member} {total zoneSectors : Nat} {zones : Array Zone}
    {raws : List RawZone} {e : Error} (h : takeZones dev total zoneSectors zones raws = .error e) :
    (∃ detail, e = .geometry dev.name detail) ∨
      e = .broken .sum ∧ dev.Overflows zoneSectors (total - zones.size) raws := by
  induction raws generalizing zones with
  | nil => simp [takeZones] at h
  | cons raw rest ih =>
    rw [Member.overflows_cons_iff]
    rw [takeZones] at h
    split at h
    · rename_i hcheck
      cases h
      exact .inl (checkZone_error hcheck)
    rename_i z hz
    obtain ⟨hindex, haccepts, rfl⟩ := checkZone_ok hz
    split at h
    · rename_i e' hpush
      cases h
      rw [pushZone_eq] at hpush
      split at hpush
      · cases hpush
      · rename_i hlimit
        cases hpush
        have hfits := mt RawZone.toZone_fits_iff.mpr hlimit
        exact .inr ⟨rfl, by omega, haccepts, fun h => absurd h hfits⟩
    · rename_i more hmore
      obtain ⟨-, rfl⟩ := pushZone_eq_ok_iff.mp hmore
      rcases ih h with hdetail | ⟨he, hrest⟩
      · exact .inl hdetail
      · rw [Array.size_push, Nat.sub_add_eq] at hrest
        exact .inr ⟨he, by omega, haccepts, fun _ => hrest⟩

/-- **When there is no sector to go on from.** -/
theorem takeZones_eq_sum_iff {dev : Member} {total zoneSectors : Nat} {zones : Array Zone}
    {raws : List RawZone} :
    takeZones dev total zoneSectors zones raws = .error (.broken .sum) ↔
      dev.Overflows zoneSectors (total - zones.size) raws := by
  constructor
  · intro h
    rcases takeZones_error h with ⟨detail, he⟩ | ⟨-, overflows⟩
    · cases he
    · exact overflows
  · intro h
    induction raws generalizing zones with
    | nil =>
      obtain ⟨before, raw, after, hraws, -⟩ := h
      simp at hraws
    | cons raw rest ih =>
      obtain ⟨hroom, haccepts, hrest⟩ := Member.overflows_cons_iff.mp h
      by_cases hfits : raw.FitsAt dev.sectorOffset
      · rw [takeZones_cons_of_takes (by omega) ⟨haccepts, hfits⟩]
        refine ih ?_
        rw [Array.size_push, Nat.sub_add_eq]
        exact hrest hfits
      · rw [takeZones, checkZone_of_accepts (by omega) haccepts]
        dsimp only
        rw [pushZone_eq, if_neg (mt RawZone.toZone_fits_iff.mp hfits)]

end ZonedSet
