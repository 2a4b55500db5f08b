/-
ZonedSet.Proofs.Walk.Bounded — the walk as a loop, and how often it goes round.

`Loop.body` is one round of the loop: it looks up the owner of the current sector, and takes the
zone of a regular device or asks a zoned one. Reports may leave the sector where it is, or take it
back, so the sector bounds nothing. What grows with each round that goes on is the number of zones
taken, and no zone is taken beyond the zones that the devices bring (`Loop.body_sound`).

`Loop.run` has a budget of rounds. It stops for want of budget where the loop would go on, so to
say that it stops with a walk is to say that the loop ends by then. A budget of one round more than
the zones is enough, and the walk is `walkFrom`'s (`Loop.run_eq_walkFrom`).

The loop also asks for its report buffer before it uses it, and `walkFrom` does not. That both give
the same walk says that the buffer is there when it is needed. Of the promises that can be broken in
a round, only one is up to the reports: that zones end at words (`Loop.BrokenBy`).
-/
import ZonedSet.Proofs.Walk.Scripted

namespace ZonedSet

/-! ## In whose name the zones are refused -/

/-- The zones as a whole are refused in the name of the set. -/
theorem closeWalk_error {label : String} {total capacity : Nat} {zones : Array Zone} {e : Error}
    (h : closeWalk label total capacity zones = .error e) :
    ∃ detail, e = .geometry label detail := by
  unfold closeWalk at h
  split at h
  · cases h
    exact ⟨_, rfl⟩
  · split at h
    · cases h
      exact ⟨_, rfl⟩
    · cases h

namespace Loop

/-! ## The loop -/

/-- Where the loop stands: the zones taken, and the queries made, the latest first. -/
structure State where
  zones : Array Zone
  asked : List Query

/-- What a round comes to. -/
inductive Outcome where
  | goesOn (next : State)
  | ends (walk : Walk)

/-- A report buffer is made where there is a zoned device to ask. -/
def hasBuffer (devices : List Member) : Bool := devices.any (·.model.isZoned)

section

variable (label : String) (devices : List Member) (zoneSectors : Nat) (report : Reporter)

/-- The last two checks, upon what the loop has come to. -/
def close (zones : Array Zone) (asked : List Query) : Walk :=
  ⟨asked, closeWalk label (totalZones devices) (totalCapacity devices) zones⟩

/-- The round of a regular device, from one of its sectors on. -/
def emulate (dev : Member) (start : Nat) (state : State) : Outcome :=
  match emulateZone dev (totalZones devices) zoneSectors state.zones start with
  | .error e => .ends ⟨state.asked, .error e⟩
  | .ok more => .goesOn ⟨more, state.asked⟩

/-- The round of a zoned device, upon a query. -/
def ask (dev : Member) (query : Query) (state : State) : Outcome :=
  match report state.asked query (.prepare query.sector) with
  | .error e => .ends ⟨query :: state.asked, .error e⟩
  | .ok buffer =>
    match buffer.zones with
    | [] => .ends (close label devices state.zones (query :: state.asked))
    | raw :: rest =>
      match takeZones dev (totalZones devices) zoneSectors state.zones (raw :: rest) with
      | .error e => .ends ⟨query :: state.asked, .error e⟩
      | .ok more => .goesOn ⟨more, query :: state.asked⟩

/-- One round. -/
def body (state : State) : Outcome :=
  match Layout.sectorOwner? (devices.map Member.blockOffset) (frontier state.zones) with
  | none => .ends ⟨state.asked, .error (.broken .sectorLayout)⟩
  | some (i, start) =>
    match devices[i]? with
    | none => .ends ⟨state.asked, .error (.broken .sectorLayout)⟩
    | some dev =>
      if dev.model.isZoned then
        if hasBuffer devices then ask label devices zoneSectors report dev ⟨i, start⟩ state
        else .ends ⟨state.asked, .error (.broken .reportBuffer)⟩
      else emulate devices zoneSectors dev start state

/-- Goes round at most so many times; `none` if the loop would go on. -/
def run : (rounds : Nat) → State → Option Walk
  | 0, state =>
    if frontier state.zones < totalCapacity devices then none
    else some (close label devices state.zones state.asked)
  | rounds + 1, state =>
    if frontier state.zones < totalCapacity devices then
      match body label devices zoneSectors report state with
      | .goesOn next => run rounds next
      | .ends walk => some walk
    else some (close label devices state.zones state.asked)

/-- The zones of a set of devices, and the queries that it took, by a loop that goes round at most
so many times. -/
def collect (rounds : Nat) : Option Walk :=
  if Word.limit ≤ totalCapacity devices then some ⟨[], .error (.broken .sum)⟩
  else if zoneLimit < totalZones devices then
    some ⟨[], .error (.geometry label (.tooManyZones (totalZones devices)))⟩
  else run label devices zoneSectors report rounds ⟨#[], []⟩

end

/-! ## One round -/

variable {devices : List Member}

/-- The query goes to a zoned device, at one of its own sectors. -/
def Sensible (devices : List Member) (query : Query) : Prop :=
  ∃ dev, devices[query.device]? = some dev ∧ dev.model.isZoned = true ∧
    query.sector < dev.capacity

/-- At most one query has been added to the log, and it was sensible. -/
def Adds (devices : List Member) (asked out : List Query) : Prop :=
  out = asked ∨ ∃ query, Sensible devices query ∧ out = query :: asked

theorem Adds.length_le {asked out : List Query} (h : Adds devices asked out) :
    out.length ≤ asked.length + 1 := by
  rcases h with rfl | ⟨query, -, rfl⟩
  · exact Nat.le_succ _
  · simp

theorem Adds.sensible {asked out : List Query} (h : Adds devices asked out)
    (hasked : ∀ query ∈ asked, Sensible devices query) :
    ∀ query ∈ out, Sensible devices query := by
  rcases h with rfl | ⟨query, hquery, rfl⟩
  · exact hasked
  · exact List.forall_mem_cons.mpr ⟨hquery, hasked⟩

/-- The promise was broken by the device that was asked: in its place, or with a zone that ends past
all words. -/
inductive BrokenBy (devices : List Member) (zoneSectors : Nat) (report : Reporter)
    (earlier : List Query) (query : Query) : Breach → Prop
  | itself {breach : Breach}
      (h : report earlier query (.prepare query.sector) = .error (.broken breach)) :
      BrokenBy devices zoneSectors report earlier query breach
  | overflow {dev : Member} (device : devices[query.device]? = some dev)
      (overflows : dev.Overflows zoneSectors (totalZones devices) (answer report earlier query)) :
      BrokenBy devices zoneSectors report earlier query .sum

/-- If the walk ended with a broken promise, that was because of the answer to its last query. -/
def Blameless (devices : List Member) (zoneSectors : Nat) (report : Reporter) (walk : Walk) :
    Prop :=
  ∀ breach, walk.result = .error (.broken breach) →
    ∃ query earlier, walk.asked = query :: earlier ∧
      BrokenBy devices zoneSectors report earlier query breach

/-- What a round may come to. One that goes on has taken a zone, and there was room for it. -/
inductive Sound (devices : List Member) (zoneSectors : Nat) (report : Reporter) (state : State) :
    Outcome → Prop
  | goesOn {next : State} (room : state.zones.size < totalZones devices)
      (grows : state.zones.size < next.zones.size) (adds : Adds devices state.asked next.asked) :
      Sound devices zoneSectors report state (.goesOn next)
  | ends {walk : Walk} (adds : Adds devices state.asked walk.asked)
      (blameless : Blameless devices zoneSectors report walk) :
      Sound devices zoneSectors report state (.ends walk)

variable {label : String} {zoneSectors : Nat} {report : Reporter}
  {state : State} {dev : Member} {query : Query} {i start : Nat}

theorem Blameless.of_geometry {asked : List Query} {result : Except Error (Array Zone)}
    (h : ∀ e, result = .error e → ∃ name detail, e = .geometry name detail) :
    Blameless devices zoneSectors report ⟨asked, result⟩ := by
  intro breach hbreach
  obtain ⟨name, detail, he⟩ := h _ hbreach
  cases he

theorem blameless_close (zones : Array Zone) (asked : List Query) :
    Blameless devices zoneSectors report (close label devices zones asked) :=
  .of_geometry fun _ he => ⟨label, closeWalk_error he⟩

/-- A device brings no zone that ends past all words, if what is left of it ends within. -/
theorem emulateZone_error {total : Nat} {zones : Array Zone} {e : Error}
    (hstart : start ≤ dev.capacity)
    (hlimit : frontier zones + (dev.capacity - start) < Word.limit)
    (h : emulateZone dev total zoneSectors zones start = .error e) :
    ∃ detail, e = .geometry dev.name detail := by
  rw [emulateZone, Word.sub?_of_le hstart] at h
  dsimp only at h
  split at h
  · cases h
    exact ⟨_, rfl⟩
  · have hfits : frontier zones + min zoneSectors (dev.capacity - start) < Word.limit := by omega
    rw [pushZone_eq, Zone.emulated, if_pos hfits] at h
    cases h

theorem emulate_sound (hstart : start ≤ dev.capacity)
    (hlimit : frontier state.zones + (dev.capacity - start) < Word.limit) :
    Sound devices zoneSectors report state (emulate devices zoneSectors dev start state) := by
  unfold emulate
  split
  · rename_i e he
    refine .ends (.inl rfl) (.of_geometry fun e' he' => ⟨dev.name, ?_⟩)
    cases he'
    exact emulateZone_error hstart hlimit he
  · rename_i more hmore
    obtain ⟨room, grows⟩ := emulateZone_grows hmore
    exact .goesOn room grows (.inl rfl)

theorem ask_sound (hdev : devices[query.device]? = some dev)
    (sensible : Sensible devices query) :
    Sound devices zoneSectors report state
      (ask label devices zoneSectors report dev query state) := by
  have adds : Adds devices state.asked (query :: state.asked) := .inr ⟨query, sensible, rfl⟩
  unfold ask
  split
  · rename_i e he
    refine .ends adds fun breach hbreach => ⟨query, state.asked, rfl, .itself ?_⟩
    rw [he, Except.error.inj hbreach]
  · rename_i buffer hbuffer
    split
    · exact .ends adds (blameless_close _ _)
    · rename_i raw rest hraws
      split
      · rename_i e he
        rcases takeZones_error he with ⟨detail, rfl⟩ | ⟨rfl, overflows⟩
        · exact .ends adds (.of_geometry fun e' he' => ⟨dev.name, detail, by cases he'; rfl⟩)
        · refine .ends adds fun breach hbreach => ⟨query, state.asked, rfl, ?_⟩
          cases hbreach
          refine .overflow hdev ?_
          have hanswer : answer report state.asked query = raw :: rest := by
            rw [answer, hbuffer]
            exact hraws
          rw [hanswer]
          exact overflows.mono (Nat.sub_le _ _)
      · rename_i more hmore
        obtain ⟨room, grows⟩ := takeZones_grows hmore
        exact .goesOn room grows adds

/-- Within the space there is a device to turn to, and a buffer if it is zoned. -/
theorem exists_body_eq (label : String) (zoneSectors : Nat) (report : Reporter)
    (contiguous : Contiguous 0 devices) (hlt : totalCapacity devices < Word.limit)
    (hfront : frontier state.zones < totalCapacity devices) :
    ∃ i start dev,
      Layout.sectorOwner? (devices.map Member.blockOffset) (frontier state.zones) =
        some (i, start) ∧
      devices[i]? = some dev ∧ start < dev.capacity ∧
      frontier state.zones + (dev.capacity - start) < Word.limit ∧
      body label devices zoneSectors report state =
        if dev.model.isZoned then ask label devices zoneSectors report dev ⟨i, start⟩ state
        else emulate devices zoneSectors dev start state := by
  obtain ⟨i, start, dev, howner, hdev, hstart, hrest⟩ := contiguous.exists_sectorOwner hlt hfront
  refine ⟨i, start, dev, howner, hdev, hstart, Nat.lt_of_le_of_lt hrest hlt, ?_⟩
  unfold body
  simp only [howner, hdev]
  by_cases hzoned : dev.model.isZoned
  · have hbuffer : hasBuffer devices = true :=
      List.any_eq_true.mpr ⟨dev, List.mem_of_getElem? hdev, hzoned⟩
    rw [if_pos hzoned, if_pos hbuffer, if_pos hzoned]
  · rw [if_neg hzoned, if_neg hzoned]

/-- **What a round may come to**, wherever it starts within the space. -/
theorem body_sound (label : String) (zoneSectors : Nat) (report : Reporter)
    (contiguous : Contiguous 0 devices) (hlt : totalCapacity devices < Word.limit)
    (hfront : frontier state.zones < totalCapacity devices) :
    Sound devices zoneSectors report state (body label devices zoneSectors report state) := by
  obtain ⟨i, start, dev, -, hdev, hstart, hlimit, hbody⟩ :=
    exists_body_eq label zoneSectors report contiguous hlt hfront
  rw [hbody]
  split
  · rename_i hzoned
    exact ask_sound hdev ⟨dev, hdev, hzoned, hstart⟩
  · exact emulate_sound (Nat.le_of_lt hstart) hlimit

/-- The walk goes the same round. -/
theorem walkFrom_eq (contiguous : Contiguous 0 devices) (hlt : totalCapacity devices < Word.limit)
    (hfront : frontier state.zones < totalCapacity devices) :
    walkFrom label devices (totalZones devices) (totalCapacity devices) zoneSectors report
        state.zones state.asked =
      match body label devices zoneSectors report state with
      | .goesOn next =>
        walkFrom label devices (totalZones devices) (totalCapacity devices) zoneSectors report
          next.zones next.asked
      | .ends walk => walk := by
  obtain ⟨i, start, dev, howner, hdev, -, -, hbody⟩ :=
    exists_body_eq label zoneSectors report contiguous hlt hfront
  rw [hbody, walkFrom, if_pos hfront]
  simp only [howner, hdev]
  by_cases hzoned : dev.model.isZoned
  · rw [if_pos hzoned, if_pos hzoned]
    dsimp only [ask]
    cases report state.asked ⟨i, start⟩ (.prepare start) with
    | error e => rfl
    | ok buffer =>
      dsimp only
      cases buffer.zones with
      | nil => rfl
      | cons raw rest =>
        dsimp only
        split <;> simp [*]
  · rw [if_neg hzoned, if_neg hzoned]
    unfold emulate
    split <;> simp [*]

/-! ## All rounds -/

section

variable (contiguous : Contiguous 0 devices) (hlt : totalCapacity devices < Word.limit)
include contiguous hlt

/-- One round more than there is room for zones is enough. The rounds are compared with the room
that is left, since each round that goes on takes some of it. -/
theorem run_eq_walkFrom {rounds : Nat}
    (enough : totalZones devices - state.zones.size < rounds) :
    run label devices zoneSectors report rounds state =
      some (walkFrom label devices (totalZones devices) (totalCapacity devices) zoneSectors report
        state.zones state.asked) := by
  induction rounds generalizing state with
  | zero => omega
  | succ rounds ih =>
    by_cases hfront : frontier state.zones < totalCapacity devices
    · rw [run, if_pos hfront, walkFrom_eq contiguous hlt hfront]
      have sound := body_sound label zoneSectors report contiguous hlt hfront
      generalize body label devices zoneSectors report state = outcome at sound ⊢
      cases sound with
      | goesOn room grows adds => exact ih (by omega)
      | ends adds blameless => rfl
    · rw [run, if_neg hfront, walkFrom, if_neg hfront]
      rfl

/-- Each round makes one query at most, all of them sensible, and breaks no promise itself. -/
theorem run_sound {rounds : Nat} {walk : Walk}
    (sensible : ∀ query ∈ state.asked, Sensible devices query)
    (h : run label devices zoneSectors report rounds state = some walk) :
    walk.asked.length ≤ state.asked.length + rounds ∧
      (∀ query ∈ walk.asked, Sensible devices query) ∧
      Blameless devices zoneSectors report walk := by
  induction rounds generalizing state with
  | zero =>
    rw [run] at h
    split at h
    · cases h
    · cases h
      exact ⟨Nat.le_refl _, sensible, blameless_close _ _⟩
  | succ rounds ih =>
    rw [run] at h
    split at h
    · rename_i hfront
      have sound := body_sound label zoneSectors report contiguous hlt hfront
      generalize body label devices zoneSectors report state = outcome at sound h
      cases sound with
      | goesOn room grows adds =>
        obtain ⟨hlength, hsensible, blameless⟩ := ih (adds.sensible sensible) h
        have := adds.length_le
        exact ⟨by omega, hsensible, blameless⟩
      | ends adds blameless =>
        cases h
        have := adds.length_le
        exact ⟨by omega, adds.sensible sensible, blameless⟩
    · cases h
      exact ⟨Nat.le_add_right _ _, sensible, blameless_close _ _⟩

end

/-- The loop gives the walk, and the walk is what its rounds may come to. -/
theorem collect_sound (contiguous : Contiguous 0 devices)
    (hlt : totalCapacity devices < Word.limit) (label : String) (zoneSectors : Nat)
    (report : Reporter) :
    collect label devices zoneSectors report (totalZones devices + 1) =
        some (collectZones label devices zoneSectors report) ∧
      (collectZones label devices zoneSectors report).asked.length ≤ totalZones devices + 1 ∧
      (∀ query ∈ (collectZones label devices zoneSectors report).asked,
        Sensible devices query) ∧
      Blameless devices zoneSectors report (collectZones label devices zoneSectors report) := by
  unfold collect collectZones
  rw [if_neg (Nat.not_le.mpr hlt), if_neg (Nat.not_le.mpr hlt)]
  split
  · exact ⟨rfl, by simp, by simp,
      .of_geometry fun e he => ⟨label, _, (Except.error.inj he).symm⟩⟩
  · have hrun : run label devices zoneSectors report (totalZones devices + 1) ⟨#[], []⟩ =
        some (walkFrom label devices (totalZones devices) (totalCapacity devices) zoneSectors report
          #[] []) := run_eq_walkFrom contiguous hlt (by simp)
    obtain ⟨hlength, hsensible, blameless⟩ := run_sound contiguous hlt (by simp) hrun
    exact ⟨hrun, by simpa using hlength, hsensible, blameless⟩

/-- **The walk ends, whatever the devices report.** It goes round once for each zone of the devices,
and once more, at most. Each round makes at most one query, to a zoned device and at one of its own
sectors; the walk never lacks an owner or a buffer, so a broken promise is always a device's: it
breaks one itself, or reports a zone that ends past all words. -/
theorem walk_bounded (contiguous : Contiguous 0 devices)
    (hlt : totalCapacity devices < Word.limit) (label : String) (zoneSectors : Nat)
    (report : Reporter) :
    collect label devices zoneSectors report (totalZones devices + 1) =
        some (collectZones label devices zoneSectors report) ∧
      (collectZones label devices zoneSectors report).asked.length ≤ totalZones devices + 1 ∧
      (∀ query ∈ (collectZones label devices zoneSectors report).asked,
        ∃ dev, devices[query.device]? = some dev ∧ dev.model.isZoned = true ∧
          query.sector < dev.capacity) ∧
      ∀ breach, (collectZones label devices zoneSectors report).result = .error (.broken breach) →
        ∃ query earlier,
          (collectZones label devices zoneSectors report).asked = query :: earlier ∧
            BrokenBy devices zoneSectors report earlier query breach :=
  collect_sound contiguous hlt label zoneSectors report

/-- A device that reports its first zone, wherever it is asked from. -/
def stuck : Reporter := fun _ _ buffer =>
  .ok (buffer.fill (.ofDescriptors [⟨0, 256, 256, 256, 1, 0, 0, 0⟩]))

/-- Reports that never get anywhere do not keep the walk going. -/
theorem walk_bounded_stuck :
    Contiguous 0 cacheAndZoned ∧ totalCapacity cacheAndZoned < Word.limit ∧
      collect "c+z" cacheAndZoned 256 stuck 6 =
        some (collectZones "c+z" cacheAndZoned 256 stuck) ∧
      (collectZones "c+z" cacheAndZoned 256 stuck).asked.length ≤ 6 := by
  have contiguous : Contiguous 0 cacheAndZoned :=
    EndToEnd.contiguous (show EndToEnd 0 cacheAndZoned by decide)
  have hlt : totalCapacity cacheAndZoned < Word.limit := by decide
  obtain ⟨hcollect, hasked, -⟩ := walk_bounded contiguous hlt "c+z" 256 stuck
  exact ⟨contiguous, hlt, hcollect, hasked⟩

end Loop

end ZonedSet
