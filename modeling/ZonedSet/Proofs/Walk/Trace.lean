/-
ZonedSet.Proofs.Walk.Trace — an account of what a walk does, pass by pass.

A pass takes either one emulated zone, from a regular device, or the zones of one answer, from a
zoned device. `Step` says which pass may follow upon the passes so far, and `Trace` chains steps.
An `Account` is a trace that reaches the end of the space with the right number of zones, and it is
exact in both directions: a walk that gives zones has an account (`exists_account`), and a walk
that has one gives its zones (`collectZones_of_account`). Facts on walks are then proved of one
step and carried along the trace.

An empty answer ends the walk before the end of the space, so no walk that gives zones has one.
What the devices answered can also be read off the log of queries alone (`answers`), which is how
conditions on the reports are stated.
-/
import ZonedSet.Proofs.Walk.Descriptor
import ZonedSet.Proofs.Layout.EndToEnd

namespace ZonedSet

/-! ## Passes -/

/-- What one pass of the walk takes. -/
inductive Pass where
  /-- One zone, made up for the regular device at this index. -/
  | emulated (device : Nat) (zone : Zone)
  /-- The zones of the answer to a query: the descriptors, and what became of them. -/
  | reported (query : Query) (raws : List RawZone) (zones : List Zone)

namespace Pass

/-- The index of the device that the pass takes its zones from. -/
def device : Pass → Nat
  | emulated i _ => i
  | reported query _ _ => query.device

/-- The zones that the pass takes. -/
def zones : Pass → List Zone
  | emulated _ z => [z]
  | reported _ _ zs => zs

/-- The query of the pass, if it makes one. -/
def query? : Pass → Option Query
  | emulated _ _ => none
  | reported query _ _ => some query

end Pass

/-- The zones that the passes take, in order. -/
def zonesOf (passes : List Pass) : List Zone := passes.flatMap Pass.zones

/-- The queries of the passes, with the latest first, as the walk logs them. -/
def askedIn (passes : List Pass) : List Query := (passes.filterMap Pass.query?).reverse

@[simp] theorem zonesOf_nil : zonesOf [] = [] := rfl

@[simp] theorem zonesOf_append (passes : List Pass) (p : Pass) :
    zonesOf (passes ++ [p]) = zonesOf passes ++ p.zones := by
  simp [zonesOf]

theorem mem_zonesOf {passes : List Pass} {z : Zone} :
    z ∈ zonesOf passes ↔ ∃ p ∈ passes, z ∈ p.zones :=
  List.mem_flatMap

@[simp] theorem askedIn_nil : askedIn [] = [] := rfl

@[simp] theorem askedIn_emulated (passes : List Pass) (i : Nat) (z : Zone) :
    askedIn (passes ++ [.emulated i z]) = askedIn passes := by
  simp [askedIn, Pass.query?]

@[simp] theorem askedIn_reported (passes : List Pass) (query : Query) (raws : List RawZone)
    (zs : List Zone) :
    askedIn (passes ++ [.reported query raws zs]) = query :: askedIn passes := by
  simp [askedIn, Pass.query?]

/-! ## Answers -/

/-- The zones that a device reports upon a query, after earlier ones. -/
def answer (report : Reporter) (earlier : List Query) (query : Query) : List RawZone :=
  match report earlier query (.prepare query.sector) with
  | .ok buffer => buffer.zones
  | .error _ => []

/-- The queries of a log, which has the latest first, with their answers, the earliest first. -/
def answers (report : Reporter) : List Query → List (Query × List RawZone)
  | [] => []
  | query :: earlier => answers report earlier ++ [(query, answer report earlier query)]

/-- The query of a pass with its answer, if it makes one. -/
def Pass.exchange? : Pass → Option (Query × List RawZone)
  | emulated _ _ => none
  | reported query raws _ => some (query, raws)

/-! ## Where the walk stands -/

/-- The sector where the passes so far end. -/
def front (passes : List Pass) : Nat := frontier (zonesOf passes).toArray

@[simp] theorem front_nil : front [] = 0 := rfl

/-- The last zone of a pass sets the front. -/
theorem front_append {passes : List Pass} {p : Pass} {before : List Zone} {z : Zone}
    (h : p.zones = before ++ [z]) : front (passes ++ [p]) = z.stop := by
  rw [front, zonesOf_append, h, ← List.append_assoc, frontier]
  simp

/-! ## Steps and traces -/

section

variable (devices : List Member) (zoneSectors : Nat) (report : Reporter)

/-- The device `dev`, at index `i`, is next: it owns the sector at the front, which is its local
sector `start`. -/
structure Turn (passes : List Pass) (i start : Nat) (dev : Member) : Prop where
  front_lt : front passes < totalCapacity devices
  owner : Layout.sectorOwner? (devices.map Member.blockOffset) (front passes) = some (i, start)
  device : devices[i]? = some dev

/-- A pass that may follow upon the passes so far. -/
inductive Step (passes : List Pass) : Pass → Prop where
  | emulated {i start : Nat} {dev : Member} (turn : Turn devices passes i start dev)
      (regular : dev.model.isZoned = false) (inside : start ≤ dev.capacity)
      (room : (zonesOf passes).length < totalZones devices)
      (fits : front passes + min zoneSectors (dev.capacity - start) < Word.limit) :
      Step passes (.emulated i (.emulated (front passes)
        (min zoneSectors (dev.capacity - start))))
  | reported {i start : Nat} {dev : Member} {buffer : ReportBuffer} {raws : List RawZone}
      (turn : Turn devices passes i start dev) (zoned : dev.model.isZoned = true)
      (answer : report (askedIn passes) ⟨i, start⟩ (.prepare start) = .ok buffer)
      (holds : buffer.zones = raws) (nonempty : raws ≠ [])
      (room : (zonesOf passes).length + raws.length ≤ totalZones devices)
      (takes : ∀ raw ∈ raws, dev.Takes zoneSectors raw) :
      Step passes (.reported ⟨i, start⟩ raws (raws.map (·.toZone dev.sectorOffset)))

/-- Passes that follow upon each other from the start of the walk. -/
inductive Trace : List Pass → Prop where
  | start : Trace []
  | step {passes : List Pass} {p : Pass} (trace : Trace passes)
      (step : Step devices zoneSectors report passes p) : Trace (passes ++ [p])

/-- The account of a walk that gives zones: its passes, up to the end of the space. -/
structure Account (passes : List Pass) (zones : Array Zone) : Prop where
  trace : Trace devices zoneSectors report passes
  zones_eq : zones.toList = zonesOf passes
  capacity_lt : totalCapacity devices < Word.limit
  total_le : totalZones devices ≤ zoneLimit
  size_eq : zones.size = totalZones devices
  frontier_eq : frontier zones = totalCapacity devices

end

variable {label : String} {devices : List Member} {zoneSectors : Nat} {report : Reporter}

theorem Turn.device_eq {passes : List Pass} {i start : Nat} {dev other : Member}
    (turn : Turn devices passes i start dev) (hi : devices[i]? = some other) : dev = other :=
  Option.some.inj (turn.device.symm.trans hi)

/-- A pass takes its zones from the device that is next. -/
theorem Step.exists_turn {passes : List Pass} {p : Pass}
    (step : Step devices zoneSectors report passes p) :
    ∃ start dev, Turn devices passes p.device start dev := by
  cases step with
  | emulated turn => exact ⟨_, _, turn⟩
  | reported turn => exact ⟨_, _, turn⟩

/-! ## From the walk to its trace -/

theorem closeWalk_eq_ok_iff {total capacity : Nat} {zones out : Array Zone} :
    closeWalk label total capacity zones = .ok out ↔
      out = zones ∧ zones.size = total ∧ frontier zones = capacity := by
  unfold closeWalk
  split
  · rename_i hsize
    simp [hsize]
  · split
    · rename_i hsize hfront
      simp [hfront]
    · rename_i hsize hfront
      simp only [Except.ok.injEq, ne_eq, Decidable.not_not] at *
      exact ⟨fun h => ⟨h.symm, hsize, hfront⟩, fun h => h.1.symm⟩

/-- The walk, gone on from these passes. -/
def walkOn (label : String) (devices : List Member) (zoneSectors : Nat) (report : Reporter)
    (passes : List Pass) : Walk :=
  walkFrom label devices (totalZones devices) (totalCapacity devices) zoneSectors report
    (zonesOf passes).toArray (askedIn passes)

/-- A walk that gives zones either has a next pass, or stands at the end of the space. -/
theorem step_or_close_of_walkOn {passes : List Pass} {out : Array Zone}
    (h : (walkOn label devices zoneSectors report passes).result = .ok out) :
    (∃ p, Step devices zoneSectors report passes p) ∨
      (out = (zonesOf passes).toArray ∧ (zonesOf passes).length = totalZones devices ∧
        front passes = totalCapacity devices) := by
  rw [walkOn, walkFrom] at h
  split at h
  · rename_i hfront
    left
    split at h
    · cases h
    rename_i i start howner
    split at h
    · cases h
    rename_i dev hdev
    have turn : Turn devices passes i start dev := ⟨hfront, howner, hdev⟩
    split at h
    · rename_i hzoned
      split at h
      · cases h
      rename_i buffer hanswer
      split at h
      · -- An empty answer closes the walk too early.
        obtain ⟨-, -, hend⟩ := closeWalk_eq_ok_iff.mp h
        omega
      rename_i raw rest hbuffer
      split at h
      · cases h
      rename_i more htake
      obtain ⟨hroom, htakes, -⟩ := takeZones_eq_ok_iff.mp htake
      have hne : raw :: rest ≠ [] := List.cons_ne_nil raw rest
      exact ⟨_, .reported turn hzoned hanswer hbuffer hne (by simpa using hroom hne) htakes⟩
    · rename_i hregular
      split at h
      · cases h
      rename_i more hmore
      obtain ⟨hinside, hroom, hfits, -⟩ := emulateZone_eq_ok_iff.mp hmore
      exact ⟨_, .emulated turn (by simpa using hregular) hinside (by simpa using hroom) hfits⟩
  · right
    obtain ⟨hout, hsize, hend⟩ := closeWalk_eq_ok_iff.mp h
    exact ⟨hout, by simpa using hsize, hend⟩

theorem walkOn_step {passes : List Pass} {p : Pass}
    (step : Step devices zoneSectors report passes p) :
    walkOn label devices zoneSectors report passes =
      walkOn label devices zoneSectors report (passes ++ [p]) := by
  cases step with
  | @emulated i start dev turn regular inside room fits =>
    obtain ⟨hfront, howner, hdev⟩ := turn
    have hroom : (zonesOf passes).toArray.size < totalZones devices := by simpa using room
    have htake : emulateZone dev (totalZones devices) zoneSectors (zonesOf passes).toArray start =
        .ok _ := emulateZone_eq_ok_iff.mpr ⟨inside, hroom, fits, rfl⟩
    conv => lhs; rw [walkOn, walkFrom]
    rw [front] at *
    simp only [hfront, if_true, howner, hdev, regular, Bool.false_eq_true, if_false]
    split
    · rename_i e he
      rw [htake] at he
      cases he
    · rename_i more hmore
      rw [htake] at hmore
      cases hmore
      simp [walkOn, Pass.zones]
  | @reported i start dev buffer raws turn zoned answer holds nonempty room takes =>
    obtain ⟨hfront, howner, hdev⟩ := turn
    have htake : takeZones dev (totalZones devices) zoneSectors (zonesOf passes).toArray raws =
        .ok (zonesOf passes ++ raws.map (·.toZone dev.sectorOffset)).toArray :=
      takeZones_eq_ok_iff.mpr ⟨fun _ => by simpa using room, takes, by simp⟩
    conv => lhs; rw [walkOn, walkFrom]
    rw [front] at *
    simp only [hfront, if_true, howner, hdev, zoned, answer, holds]
    split
    · exact absurd rfl nonempty
    · rename_i raw rest
      split
      · rename_i e he
        rw [htake] at he
        cases he
      · rename_i more hmore
        rw [htake] at hmore
        cases hmore
        simp [walkOn, Pass.zones]

/-- A walk ends with an answer that it does not take over. -/
theorem walkOn_refused {passes : List Pass} {i start : Nat} {dev : Member} {buffer : ReportBuffer}
    {raws : List RawZone} {e : Error} (turn : Turn devices passes i start dev)
    (zoned : dev.model.isZoned = true)
    (answer : report (askedIn passes) ⟨i, start⟩ (.prepare start) = .ok buffer)
    (holds : buffer.zones = raws)
    (refused : takeZones dev (totalZones devices) zoneSectors (zonesOf passes).toArray raws =
      .error e) :
    walkOn label devices zoneSectors report passes = ⟨⟨i, start⟩ :: askedIn passes, .error e⟩ := by
  obtain ⟨hfront, howner, hdev⟩ := turn
  rw [walkOn, walkFrom]
  rw [front] at *
  simp only [hfront, if_true, howner, hdev, zoned, answer, holds]
  cases raws with
  | nil => cases refused
  | cons raw rest =>
    dsimp only
    split
    · rename_i e' he
      rw [refused] at he
      cases he
      rfl
    · rename_i more hmore
      rw [refused] at hmore
      cases hmore

/-- A pass takes at least one zone, and no more than there is room for. -/
theorem Step.length_lt {passes : List Pass} {p : Pass}
    (step : Step devices zoneSectors report passes p) :
    (zonesOf passes).length < (zonesOf (passes ++ [p])).length ∧
      (zonesOf (passes ++ [p])).length ≤ totalZones devices := by
  cases step with
  | emulated turn regular inside room fits =>
    simp only [zonesOf_append, Pass.zones, List.length_append, List.length_singleton]
    omega
  | reported turn zoned answer holds nonempty room takes =>
    have := List.length_pos_iff.mpr nonempty
    simp only [zonesOf_append, Pass.zones, List.length_append, List.length_map]
    omega

/-- A walk that gives zones extends the trace on which it goes on. The induction is on the number
of zones that there is still room for. -/
theorem exists_trace_of_walkOn {passes : List Pass} {out : Array Zone}
    (trace : Trace devices zoneSectors report passes)
    (h : (walkOn label devices zoneSectors report passes).result = .ok out) :
    ∃ more, Trace devices zoneSectors report more ∧ out = (zonesOf more).toArray ∧
      (zonesOf more).length = totalZones devices ∧ front more = totalCapacity devices := by
  generalize hroom : totalZones devices - (zonesOf passes).length = room
  induction room using Nat.strongRecOn generalizing passes with
  | ind room ih =>
    rcases step_or_close_of_walkOn h with ⟨p, step⟩ | hclose
    · obtain ⟨hlt, hle⟩ := step.length_lt
      rw [walkOn_step step] at h
      exact ih _ (by omega) (trace.step step) h rfl
    · exact ⟨passes, trace, hclose⟩

/-- **A walk that gives zones has an account.** -/
theorem exists_account {zones : Array Zone}
    (h : (collectZones label devices zoneSectors report).result = .ok zones) :
    ∃ passes, Account devices zoneSectors report passes zones := by
  rw [collectZones] at h
  split at h
  · cases h
  rename_i hcapacity
  split at h
  · cases h
  rename_i htotal
  obtain ⟨passes, trace, rfl, hsize, hend⟩ := exists_trace_of_walkOn .start h
  exact ⟨passes, trace, rfl, Nat.not_le.mp hcapacity, Nat.not_lt.mp htotal, by simpa using hsize,
    hend⟩

/-! ## From a trace to the walk -/

theorem walkOn_of_trace (label : String) {passes : List Pass}
    (trace : Trace devices zoneSectors report passes) :
    walkOn label devices zoneSectors report [] =
      walkOn label devices zoneSectors report passes := by
  induction trace with
  | start => rfl
  | step trace step ih => rw [ih, walkOn_step step]

/-- A walk begins without any passes. -/
theorem collectZones_eq_walkOn (hcapacity : totalCapacity devices < Word.limit)
    (htotal : totalZones devices ≤ zoneLimit) :
    collectZones label devices zoneSectors report =
      walkOn label devices zoneSectors report [] := by
  rw [collectZones]
  rw [if_neg (Nat.not_le.mpr hcapacity), if_neg (Nat.not_lt.mpr htotal)]
  rfl

/-- **A walk with an account gives its zones, after its queries.** -/
theorem collectZones_of_account {passes : List Pass} {zones : Array Zone}
    (account : Account devices zoneSectors report passes zones) :
    collectZones label devices zoneSectors report = ⟨askedIn passes, .ok zones⟩ := by
  obtain ⟨trace, hzones, hcapacity, htotal, hsize, hend⟩ := account
  obtain rfl : zones = (zonesOf passes).toArray := by rw [← hzones]
  have hclose : closeWalk label (totalZones devices) (totalCapacity devices)
      (zonesOf passes).toArray = .ok (zonesOf passes).toArray :=
    closeWalk_eq_ok_iff.mpr ⟨rfl, hsize, hend⟩
  have hwalk := walkOn_of_trace label trace
  conv at hwalk => rhs; rw [walkOn, walkFrom]
  rw [if_neg (by omega), hclose] at hwalk
  rw [collectZones_eq_walkOn hcapacity htotal, hwalk]

/-! ## What a trace says about the answers -/

/-- The log of a trace gives back the answers that its passes hold. -/
theorem answers_askedIn {passes : List Pass} (trace : Trace devices zoneSectors report passes) :
    answers report (askedIn passes) = passes.filterMap Pass.exchange? := by
  induction trace with
  | start => rfl
  | @step passes p trace step ih =>
    cases step with
    | emulated => simp [ih, Pass.exchange?]
    | reported turn zoned hanswer holds =>
      rw [askedIn_reported, answers, ih]
      simp [answer, hanswer, holds, Pass.exchange?]

/-- What is true of every answer in the log is true of every answer that a pass holds. -/
theorem Trace.forall_answers_iff {passes : List Pass}
    (trace : Trace devices zoneSectors report passes) {P : Query → List RawZone → Prop} :
    (∀ query raws, (query, raws) ∈ answers report (askedIn passes) → P query raws) ↔
      ∀ p ∈ passes, ∀ query raws, p.exchange? = some (query, raws) → P query raws := by
  rw [answers_askedIn trace]
  simp only [List.mem_filterMap]
  constructor
  · intro h p hp query raws hexchange
    exact h query raws ⟨p, hp, hexchange⟩
  · rintro h query raws ⟨p, hp, hexchange⟩
    exact h p hp query raws hexchange

theorem mem_answers {passes : List Pass} (trace : Trace devices zoneSectors report passes)
    {query : Query} {raws : List RawZone} :
    (query, raws) ∈ answers report (askedIn passes) ↔ ∃ zs, .reported query raws zs ∈ passes := by
  rw [answers_askedIn trace, List.mem_filterMap]
  constructor
  · rintro ⟨p, hp, hexchange⟩
    cases p with
    | emulated => cases hexchange
    | reported query' raws' zs =>
      cases hexchange
      exact ⟨zs, hp⟩
  · rintro ⟨zs, hp⟩
    exact ⟨_, hp, rfl⟩

/-! ## Steps on a layout -/

/-- The device that is next holds the sector at the front. -/
theorem Turn.holds (laid : LaidOut devices) {passes : List Pass} {i start : Nat} {dev : Member}
    (turn : Turn devices passes i start dev) :
    dev.Holds (front passes) ∧ start = front passes - dev.sectorOffset := by
  obtain ⟨j, other, hj, hholds⟩ := laid.exists_holds turn.front_lt
  have howner := laid.sectorOwner?_eq hj hholds
  rw [turn.owner, Option.some.injEq, Prod.mk.injEq] at howner
  obtain ⟨rfl, hstart⟩ := howner
  rw [turn.device, Option.some.injEq] at hj
  subst hj
  exact ⟨hholds, hstart⟩

/-- What is left of the device from the front on. -/
theorem Turn.rest_eq (laid : LaidOut devices) {passes : List Pass} {i start : Nat} {dev : Member}
    (turn : Turn devices passes i start dev) :
    dev.capacity - start = dev.stop - front passes := by
  obtain ⟨⟨hle, hlt⟩, rfl⟩ := turn.holds laid
  rw [Member.stop]
  omega

/-- On a layout there is always room in the space for an emulated zone. -/
theorem Step.emulated_of_turn (laid : LaidOut devices) {passes : List Pass} {i start : Nat}
    {dev : Member} (turn : Turn devices passes i start dev) (regular : dev.model.isZoned = false)
    (room : (zonesOf passes).length < totalZones devices) :
    Step devices zoneSectors report passes (.emulated i (.emulated (front passes)
      (min zoneSectors (dev.stop - front passes)))) := by
  have hrest := turn.rest_eq laid
  obtain ⟨⟨hle, hlt⟩, hstart⟩ := turn.holds laid
  have htotal := laid.stop_le_total turn.device
  have hlimit := laid.capacity_lt
  have hinside : start ≤ dev.capacity := by
    rw [Member.stop] at hlt
    omega
  rw [← hrest]
  exact .emulated turn regular hinside room (by omega)

/-- Every pass of a trace was a step, upon the passes before it. -/
theorem Trace.exists_step {passes : List Pass} (trace : Trace devices zoneSectors report passes)
    {p : Pass} (hp : p ∈ passes) :
    ∃ earlier, Step devices zoneSectors report earlier p := by
  induction trace with
  | start => cases hp
  | step trace step ih =>
    rcases List.mem_append.mp hp with hp | hp
    · exact ih hp
    · obtain rfl := List.mem_singleton.mp hp
      exact ⟨_, step⟩

/-! ## The zones of an account -/

section

variable {passes : List Pass} {zones : Array Zone}
  (account : Account devices zoneSectors report passes zones)
include account

/-- Every zone of an account was added by a step. -/
theorem Account.exists_step {z : Zone} (hz : z ∈ zones.toList) :
    ∃ p ∈ passes, z ∈ p.zones ∧ ∃ earlier, Step devices zoneSectors report earlier p := by
  rw [account.zones_eq] at hz
  obtain ⟨p, hp, hz⟩ := mem_zonesOf.mp hz
  exact ⟨p, hp, hz, account.trace.exists_step hp⟩

/-- If in every step the answer tells whether something is true of the zones, so do the answers of
an account. -/
theorem Account.forall_zones_iff {P : Zone → Prop} {Q : Query → List RawZone → Prop}
    (hstep : ∀ earlier p, Step devices zoneSectors report earlier p →
      ((∀ z ∈ p.zones, P z) ↔ ∀ query raws, p.exchange? = some (query, raws) → Q query raws)) :
    (∀ z ∈ zones.toList, P z) ↔
      ∀ query raws, (query, raws) ∈ answers report (askedIn passes) → Q query raws := by
  rw [account.trace.forall_answers_iff]
  constructor
  · intro h p hp
    obtain ⟨earlier, step⟩ := account.trace.exists_step hp
    refine (hstep earlier p step).mp fun z hz => h z ?_
    rw [account.zones_eq]
    exact mem_zonesOf.mpr ⟨p, hp, hz⟩
  · intro h z hz
    obtain ⟨p, hp, hz, earlier, step⟩ := account.exists_step hz
    exact (hstep earlier p step).mpr (h p hp) z hz

end

end ZonedSet
