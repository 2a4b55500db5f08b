/-
ZonedSet.Proofs.Walk.Ends — where reported zones end, and whether that is a word.

Of a descriptor the check adds start and length, start and offset, and write pointer and offset, and
refuses it where a sum is no word (`Member.Accepts`). The end of the zone in the space of the set is
the sum of all three, start, length and offset, and is not looked at: both sums that it goes into
may be words where it is none. Then the zone passes the check, and the walk, which goes on from the
end of the zone, breaks off without a result.

`Zone.Ends` says what the check makes sure of and what it leaves open (`checkZone_ends`). A walk
that gives zones has met none that ends past all words (`Account.takes`), and one that breaks off
for want of a sum has met one in its last answer. That takes a device that reports a zone past its
own end (`RawZone.fitsAt_of_within`).
-/
import ZonedSet.Proofs.Walk.Bounded

namespace ZonedSet

variable {label : String} {devices : List Member} {zoneSectors : Nat} {report : Reporter}
  {passes : List Pass} {p : Pass} {dev : Member} {raw : RawZone} {z : Zone}

/-! ## One zone -/

/-- The sums that a zone comes from, a descriptor moved by an offset. -/
structure Zone.Ends (offset : Nat) (raw : RawZone) (z : Zone) : Prop where
  local_lt : raw.start + raw.length < Word.limit
  start_lt : z.start < Word.limit
  pointer_lt : ∀ pointer, z.writePointer = some pointer → pointer < Word.limit
  /-- What is left open. -/
  fits_iff : z.start + z.length < Word.limit ↔ raw.FitsAt offset
  stop?_eq : z.stop? = if raw.FitsAt offset then some (z.start + z.length) else none

theorem Zone.stop?_of_lt (h : z.start + z.length < Word.limit) :
    z.stop? = some (z.start + z.length) :=
  Word.add?_of_lt h

theorem Member.Accepts.ends (h : dev.Accepts zoneSectors raw) :
    (raw.toZone dev.sectorOffset).Ends dev.sectorOffset raw where
  local_lt := h.stop_lt
  start_lt := h.start_lt
  pointer_lt := by
    intro pointer hpointer
    simp only [RawZone.toZone] at hpointer
    split at hpointer
    · cases hpointer
    · rename_i hconv
      cases hpointer
      exact h.pointer_lt hconv
  fits_iff := RawZone.toZone_fits_iff
  stop?_eq := by
    split
    · rename_i hfits
      exact Zone.stop?_of_lt (RawZone.toZone_fits_iff.mpr hfits)
    · rename_i hfits
      have hlimit := mt RawZone.toZone_fits_iff.mp hfits
      exact Word.add?_eq_none_iff.mpr (Nat.not_lt.mp hlimit)

/-- **What the check says of the end of a zone.** -/
theorem checkZone_ends {index total : Nat}
    (h : checkZone dev index total zoneSectors raw = .ok z) : z.Ends dev.sectorOffset raw := by
  obtain ⟨-, haccepts, rfl⟩ := checkZone_ok h
  exact haccepts.ends

/-- A descriptor that keeps to its device ends in a word wherever its device does. -/
theorem RawZone.fitsAt_of_within (hwithin : raw.start + raw.length ≤ dev.capacity)
    (hstop : dev.stop < Word.limit) : raw.FitsAt dev.sectorOffset := by
  have : dev.stop = dev.sectorOffset + dev.capacity := rfl
  rw [RawZone.FitsAt]
  omega

/-! ## The zones of a walk -/

/-- The zones of a step end at words. -/
theorem Step.stop_lt (step : Step devices zoneSectors report passes p) :
    ∀ z ∈ p.zones, z.start + z.length < Word.limit := by
  intro z hz
  cases step with
  | @emulated i start dev turn regular inside room fits =>
    obtain rfl := List.mem_singleton.mp hz
    exact fits
  | @reported i start dev buffer raws turn zoned answer holds nonempty room takes =>
    obtain ⟨raw, hraw, rfl⟩ := List.mem_map.mp hz
    exact RawZone.toZone_fits_iff.mpr (takes raw hraw).fits

/-- The zones of a walk end at words. -/
theorem Account.stop_lt {zones : Array Zone}
    (account : Account devices zoneSectors report passes zones) (hz : z ∈ zones.toList) :
    z.start + z.length < Word.limit := by
  obtain ⟨p, -, hz, earlier, step⟩ := account.exists_step hz
  exact step.stop_lt z hz

/-- The walk takes all descriptors of a step. -/
theorem Step.takes {query : Query} {raws : List RawZone} {zs : List Zone}
    (step : Step devices zoneSectors report passes (.reported query raws zs))
    (hdev : devices[query.device]? = some dev) : ∀ raw ∈ raws, dev.Takes zoneSectors raw := by
  cases step with
  | reported turn zoned answer holds nonempty room takes =>
    obtain rfl := turn.device_eq hdev
    exact takes

/-- The walk takes all descriptors of its answers, if it gives zones. -/
theorem Account.takes {zones : Array Zone}
    (account : Account devices zoneSectors report passes zones) {query : Query}
    {raws : List RawZone} (hanswer : (query, raws) ∈ answers report (askedIn passes))
    (hdev : devices[query.device]? = some dev) : ∀ raw ∈ raws, dev.Takes zoneSectors raw := by
  obtain ⟨zs, hmem⟩ := (mem_answers account.trace).mp hanswer
  obtain ⟨earlier, step⟩ := account.trace.exists_step hmem
  exact step.takes hdev

/-- No answer of the walk holds a descriptor that runs past the end of its device. -/
def WithinDevices (devices : List Member) (exchanges : List (Query × List RawZone)) : Prop :=
  ∀ query raws, (query, raws) ∈ exchanges → ∀ dev, devices[query.device]? = some dev →
    ∀ raw ∈ raws, raw.start + raw.length ≤ dev.capacity

/-- Devices that report nothing past their own end have no zone that ends past all words. -/
theorem WithinDevices.not_overflows (laid : LaidOut devices) {earlier : List Query} {query : Query}
    (within : WithinDevices devices (answers report (query :: earlier)))
    (hdev : devices[query.device]? = some dev) {room : Nat} :
    ¬dev.Overflows zoneSectors room (answer report earlier query) := by
  rintro ⟨before, raw, after, hraws, -, -, -, hfits⟩
  have hstop := Nat.lt_of_le_of_lt (laid.stop_le_total hdev) laid.capacity_lt
  have hend := within query (answer report earlier query) (by simp [answers]) dev hdev raw
    (by simp [hraws])
  exact hfits (RawZone.fitsAt_of_within hend hstop)

/-- What a walk comes to, as far as the ends of zones go. -/
structure Walk.Ends (devices : List Member) (zoneSectors : Nat) (report : Reporter) (walk : Walk) :
    Prop where
  /-- All zones that are given end at words, and so do all descriptors that were looked at. -/
  stop?_eq : ∀ zones, walk.result = .ok zones →
    ∀ z ∈ zones.toList, z.stop? = some (z.start + z.length)
  fits : ∀ zones, walk.result = .ok zones →
    ∀ query raws, (query, raws) ∈ answers report walk.asked →
      ∀ dev, devices[query.device]? = some dev → ∀ raw ∈ raws, raw.FitsAt dev.sectorOffset
  /-- A sum that is no word was the end of a zone in the last answer, unless the device that was
  asked came to it itself. -/
  broken : walk.result = .error (.broken .sum) →
    ∃ query earlier, walk.asked = query :: earlier ∧
      Loop.BrokenBy devices zoneSectors report earlier query .sum
  /-- There is none where devices report nothing past their own end. -/
  unbroken : WithinDevices devices (answers report walk.asked) →
    (∀ earlier query buffer, report earlier query buffer ≠ .error (.broken .sum)) →
      walk.result ≠ .error (.broken .sum)

theorem collectZones_ends (laid : LaidOut devices) (label : String) (zoneSectors : Nat)
    (report : Reporter) :
    (collectZones label devices zoneSectors report).Ends devices zoneSectors report := by
  have blameless := (Loop.collect_sound laid.endToEnd.contiguous laid.capacity_lt label zoneSectors
    report).2.2.2
  refine ⟨?_, ?_, blameless .sum, ?_⟩
  · intro zones h z hz
    obtain ⟨passes, account⟩ := exists_account h
    exact Zone.stop?_of_lt (account.stop_lt hz)
  · intro zones h query raws hanswer dev hdev raw hraw
    obtain ⟨passes, account⟩ := exists_account h
    rw [collectZones_of_account account] at hanswer
    exact (account.takes hanswer hdev raw hraw).fits
  · intro within hworks h
    obtain ⟨query, earlier, hasked, hbroken⟩ := blameless .sum h
    rw [hasked] at within
    cases hbroken with
    | itself h => exact hworks _ _ _ h
    | overflow hdev overflows => exact within.not_overflows laid hdev overflows

/-- **Where zones end.** A zone that passes the check starts at a word and has a word for a write
pointer, and its descriptor ends in one. The zone itself does if and only if the descriptor still
does once it is moved, and else its end is not to be had. An answer in which the walk comes to such
a zone breaks the walk off, for no other reason. So a walk that gives zones gives such as end at
words, and one that breaks off had an answer of this kind last, which takes a device that reports a
zone past its own end. -/
theorem zones_end (zoneSectors : Nat) :
    (∀ (dev : Member) (index total : Nat) (raw : RawZone) (z : Zone),
      checkZone dev index total zoneSectors raw = .ok z → z.Ends dev.sectorOffset raw) ∧
    (∀ (dev : Member) (total : Nat) (zones : Array Zone) (raws : List RawZone),
      takeZones dev total zoneSectors zones raws = .error (.broken .sum) ↔
        dev.Overflows zoneSectors (total - zones.size) raws) ∧
    ∀ (label : String) (devices : List Member) (report : Reporter), LaidOut devices →
      (collectZones label devices zoneSectors report).Ends devices zoneSectors report :=
  ⟨fun _ _ _ _ _ => checkZone_ends, fun _ _ _ _ => takeZones_eq_sum_iff,
    fun label _ report laid => collectZones_ends laid label zoneSectors report⟩

theorem zones_end_cacheAndZoned :
    (∃ dev raw z, checkZone dev 3 5 256 raw = .ok z ∧ z.Ends dev.sectorOffset raw) ∧
    LaidOut cacheAndZoned ∧
      (collectZones "c+z" cacheAndZoned 256 (.scripted twoBatches)).result =
        .ok cacheAndZonedZones ∧
      ∀ z ∈ cacheAndZonedZones.toList, z.stop? = some (z.start + z.length) :=
  have laid : LaidOut cacheAndZoned := by decide
  have hcheck : checkZone ⟨"z", .hostManaged, 600, 3, 50⟩ 3 5 256
      ⟨256, 256, 300, 0, 2, 2, true, false⟩ =
        .ok ⟨656, 256, 256, some 700, .sequentialRequired, .implicitOpen, false, true⟩ := rfl
  have hends := (zones_end 256).2.2 "c+z" cacheAndZoned (.scripted twoBatches) laid
  ⟨⟨_, _, _, hcheck, (zones_end 256).1 _ _ _ _ _ hcheck⟩, laid, collectZones_cacheAndZoned,
    hends.stop?_eq _ collectZones_cacheAndZoned⟩

/-- A zoned device of two zones behind a regular one of 256 sectors. -/
def cacheAndTwoZones : List Member :=
  [⟨"c", .regular, 256, 1, 0⟩, ⟨"z", .hostManaged, 512, 2, 32⟩]

/-- A zone that ends 256 sectors below the limit of words. -/
def highDescriptor : Descriptor :=
  ⟨18446744073709551104, 256, 18446744073709551104, 256, 2, 1, 0, 0⟩

/-- The same, 256 sectors further up. -/
def highZone : Zone :=
  ⟨18446744073709551360, 256, 256, some 18446744073709551360, .sequentialRequired, .empty, false,
    false⟩

/-- The device reports such a zone for its first one, and then its second one. -/
def highFirst : List (List Descriptor) :=
  [[highDescriptor, ⟨256, 256, 256, 256, 2, 1, 0, 0⟩]]

/-- A zone that passes the check may end past all words, and break the walk off. -/
theorem highZone_ends_past_words :
    LaidOut cacheAndTwoZones ∧ Counted 256 cacheAndTwoZones ∧
      (∃ dev ∈ cacheAndTwoZones,
        checkZone dev 1 3 256 (highDescriptor.toRawZone true) = .ok highZone) ∧
      Word.limit ≤ highZone.start + highZone.length ∧ highZone.stop? = none ∧
      collectZones "c+z" cacheAndTwoZones 256 (.scripted highFirst) =
        ⟨[⟨1, 0⟩], .error (.broken .sum)⟩ := by
  refine ⟨by decide, by decide, ?_, by decide, by decide, ?_⟩
  · exact ⟨⟨"z", .hostManaged, 512, 2, 32⟩, by decide, rfl⟩
  · have hpasses : followScript cacheAndTwoZones 256 highFirst 1 [] =
        [.emulated 0 (.emulated 0 256)] := rfl
    have turn : Turn cacheAndTwoZones [.emulated 0 (.emulated 0 256)] 1 0
        ⟨"z", .hostManaged, 512, 2, 32⟩ := by decide
    exact collectZones_of_refused hpasses (by decide) (by decide) turn rfl rfl (by decide) rfl

end ZonedSet
