/-
ZonedSet.Proofs.Opening.Assembling — what is known of a set once it is assembled.

Assembling chooses a zone size and takes opened devices through three steps (`Stages`): the regular
ones adopt the zone size, all are laid end to end, and their zones are collected. Adoption gives a
device its zones and laying out its place, and neither changes anything else (`Backing.unplaced`);
laying out makes the layout of `EndToEnd`, and the walk does not begin in a space whose end is no
64-bit word. Together they give `DeviceSet.Coherent`, on the places of the
devices, and `DeviceSet.Divided`, on their zones, which is all that later modules use of
assembling.
-/
import ZonedSet.DeviceSet
import ZonedSet.Storage.Edit
import ZonedSet.Proofs.Opening.Device
import ZonedSet.Proofs.Walk.Trace

namespace ZonedSet

namespace Backing

variable {d e : Backing}

/-- A device without its place in a set. -/
def unlaid (d : Backing) : Backing := { d with blockOffset := 0 }

/-- A device without what a set gives it. -/
def unplaced (d : Backing) : Backing :=
  { d with zoneCount := 0, blockOffset := 0, zoneSectors := 0 }

theorem map_unplaced_of_unlaid {devices out : List Backing}
    (h : out.map unlaid = devices.map unlaid) : out.map unplaced = devices.map unplaced := by
  have h := congrArg (List.map unplaced) h
  rwa [List.map_map, List.map_map] at h

/-- Of lists that are the same without what a set gives, one has the devices of the other. -/
theorem exists_of_map_unplaced {devices out : List Backing}
    (h : out.map unplaced = devices.map unplaced) (he : e ∈ out) :
    ∃ d ∈ devices, e.unplaced = d.unplaced := by
  have hmem : e.unplaced ∈ devices.map unplaced := h ▸ List.mem_map_of_mem he
  obtain ⟨d, hd, hde⟩ := List.mem_map.mp hmem
  exact ⟨d, hd, hde.symm⟩

theorem sized_of_unlaid {zoneSectors : Nat} {devices out : List Backing}
    (h : out.map unlaid = devices.map unlaid) (sized : ∀ d ∈ devices, d.Sized zoneSectors) :
    ∀ e ∈ out, e.Sized zoneSectors := by
  intro e he
  have hmem : e.unlaid ∈ devices.map unlaid := h ▸ List.mem_map_of_mem he
  obtain ⟨d, hd, hsame⟩ := List.mem_map.mp hmem
  have hunlaid : e.unlaid.Sized zoneSectors := hsame ▸ ⟨(sized d hd).1, (sized d hd).2⟩
  exact ⟨hunlaid.1, hunlaid.2⟩

/-- What a set leaves alone is the same in devices that are the same without what it gives them. -/
theorem part_eq_of_unplaced_eq {α : Type} (part : Backing → α)
    (hkept : ∀ b, part b.unplaced = part b) (h : d.unplaced = e.unplaced) : part d = part e := by
  rw [← hkept d, h, hkept e]

theorem handle_eq_of_unplaced_eq (h : d.unplaced = e.unplaced) : d.handle = e.handle :=
  part_eq_of_unplaced_eq (·.handle) (fun _ => rfl) h

theorem capacity_eq_of_unplaced_eq (h : d.unplaced = e.unplaced) : d.capacity = e.capacity :=
  part_eq_of_unplaced_eq (·.capacity) (fun _ => rfl) h

theorem model_eq_of_unplaced_eq (h : d.unplaced = e.unplaced) : d.model = e.model :=
  part_eq_of_unplaced_eq (·.model) (fun _ => rfl) h

theorem name_eq_of_unplaced_eq (h : d.unplaced = e.unplaced) : d.name = e.name :=
  part_eq_of_unplaced_eq (·.name) (fun _ => rfl) h

end Backing

namespace DeviceSet

variable {s : Storage} {label : Option String} {emulated : Option Nat} {zoneSectors offset : Nat}
  {options : OpenOptions} {paths : List String} {devices out : List Backing} {e : Backing}
  {set : DeviceSet}

/-! ## The steps -/

theorem disagreeing?_eq_none (h : disagreeing? zoneSectors devices = none) :
    ∀ d ∈ devices, d.zoneSectors = zoneSectors := by
  intro d hd
  have := List.find?_eq_none.mp h d hd
  simpa using this

/-- The zone size that is chosen is that of all zoned devices. If there are none, it is the
emulated one. -/
theorem chooseZoneSize_cases {first : Backing} {rest : List Backing}
    (h : chooseZoneSize first rest emulated = .ok zoneSectors) :
    (∀ d ∈ first :: rest, d.model.isZoned = true → d.zoneSectors = zoneSectors) ∧
      ((∃ d ∈ first :: rest, d.model.isZoned = true) ∨
        (∀ d ∈ first :: rest, d.model.isZoned = false) ∧ emulated = some zoneSectors ∧
          Backing.validZoneSize zoneSectors = true) := by
  have hmem (d : Backing) : d ∈ (first :: rest).filter (·.model.isZoned) ↔
      d ∈ first :: rest ∧ d.model.isZoned = true := List.mem_filter
  unfold chooseZoneSize at h
  split at h
  · rename_i dictating others hfilter
    rw [hfilter] at hmem
    split at h
    · cases h
    · rename_i hagree
      cases h
      refine ⟨fun d hd hdz => ?_, .inl ⟨dictating, (hmem dictating).mp List.mem_cons_self⟩⟩
      rcases List.mem_cons.mp ((hmem d).mpr ⟨hd, hdz⟩) with rfl | hother
      · rfl
      · exact disagreeing?_eq_none hagree d hother
  · rename_i hfilter
    rw [hfilter] at hmem
    have hregular : ∀ d ∈ first :: rest, d.model.isZoned = false := by
      intro d hd
      simpa [hd] using hmem d
    dsimp only at h
    split at h
    · rename_i hvalid
      cases h
      refine ⟨fun d hd hdz => ?_, .inr ⟨hregular, ?_, hvalid⟩⟩
      · simp [hregular d hd] at hdz
      · cases emulated with
        | none => cases hvalid
        | some given => rfl
    · cases h

theorem chooseZoneSize_ok {first : Backing} {rest : List Backing}
    (h : chooseZoneSize first rest emulated = .ok zoneSectors)
    (valid : ∀ d ∈ first :: rest, d.model.isZoned = true →
      Backing.validZoneSize d.zoneSectors = true) :
    Backing.validZoneSize zoneSectors = true ∧
      ∀ d ∈ first :: rest, d.model.isZoned = true → d.zoneSectors = zoneSectors := by
  obtain ⟨hagree, ⟨d, hd, hzoned⟩ | ⟨-, -, hvalid⟩⟩ := chooseZoneSize_cases h
  · exact ⟨hagree d hd hzoned ▸ valid d hd hzoned, hagree⟩
  · exact ⟨hvalid, hagree⟩

/-- A device goes through adoption by one of two ways. -/
theorem adoptZoneSize_cons {d : Backing} {rest : List Backing}
    (h : adoptZoneSize zoneSectors (d :: rest) = .ok out) :
    ∃ e more, (d.model.isZoned = true ∧ e = d ∨ d.withZoneSize zoneSectors = .ok e) ∧
      adoptZoneSize zoneSectors rest = .ok more ∧ out = e :: more := by
  rw [adoptZoneSize] at h
  split at h
  · rename_i hzoned
    have h : (adoptZoneSize zoneSectors rest >>= fun more => pure (d :: more)) = .ok out := h
    obtain ⟨more, hmore, h⟩ := bind_eq_ok_iff.mp h
    cases h
    exact ⟨d, more, .inl ⟨hzoned, rfl⟩, hmore, rfl⟩
  · obtain ⟨e, he, h⟩ := bind_eq_ok_iff.mp h
    obtain ⟨more, hmore, h⟩ := bind_eq_ok_iff.mp h
    cases h
    exact ⟨e, more, .inr he, hmore, rfl⟩

/-- Adoption gives all devices their zones, if the zoned ones had them, and nothing else. -/
theorem adoptZoneSize_ok (h : adoptZoneSize zoneSectors devices = .ok out)
    (zoned : ∀ d ∈ devices, d.model.isZoned = true → d.Sized zoneSectors) :
    out.map Backing.unplaced = devices.map Backing.unplaced ∧ ∀ d ∈ out, d.Sized zoneSectors := by
  induction devices generalizing out with
  | nil =>
    cases h
    simp
  | cons d rest ih =>
    obtain ⟨e, more, he, hmore, rfl⟩ := adoptZoneSize_cons h
    obtain ⟨hsame, hsized⟩ : e.unplaced = d.unplaced ∧ e.Sized zoneSectors := by
      rcases he with ⟨hzoned, rfl⟩ | he
      · exact ⟨rfl, zoned e List.mem_cons_self hzoned⟩
      · refine ⟨?_, Backing.sized_of_withZoneSize he⟩
        obtain ⟨n, -, rfl⟩ := Backing.withZoneSize_eq_ok_iff.mp he
        rfl
    obtain ⟨hsames, hsizeds⟩ := ih hmore fun d hd => zoned d (List.mem_cons_of_mem _ hd)
    rw [List.map_cons, List.map_cons, hsame, hsames]
    exact ⟨rfl, List.forall_mem_cons.mpr ⟨hsized, hsizeds⟩⟩

/-- Laying out gives the devices their places, and nothing else. -/
theorem layOut_ok (h : layOut offset devices = .ok out) (pos : ∀ d ∈ devices, 0 < d.capacity) :
    out.map Backing.unlaid = devices.map Backing.unlaid ∧ EndToEnd offset (membersOf out) := by
  induction devices generalizing offset out with
  | nil =>
    cases h
    exact ⟨rfl, trivial⟩
  | cons d rest ih =>
    obtain ⟨hd, hrest⟩ := List.forall_mem_cons.mp pos
    rw [layOut] at h
    split at h
    · cases h
    rename_i haligned
    split at h
    · cases h
    rename_i stop hstop
    obtain ⟨rfl, -⟩ := Word.add?_eq_some_iff.mp hstop
    obtain ⟨more, hmore, h⟩ := bind_eq_ok_iff.mp h
    cases h
    obtain ⟨hsame, hlaid⟩ := ih hmore hrest
    refine ⟨?_, rfl, hd, fun hne => ?_, hlaid⟩
    · rw [List.map_cons, hsame]
      rfl
    · have hrest : rest ≠ [] := by
        rintro rfl
        exact hne (by simpa [membersOf] using hsame)
      exact Decidable.not_not.mp fun hodd => haligned ⟨hrest, hodd⟩

theorem openDevices_cons_eq_ok_iff {path : String} :
    openDevices s options (path :: paths) = .ok devices ↔
      ∃ d more, Backing.openAt s options.purpose options.overwrite options.config path = .ok d ∧
        openDevices s options paths = .ok more ∧ devices = d :: more := by
  simp only [openDevices, bind_eq_ok_iff]
  constructor
  · rintro ⟨d, hd, more, hmore, h⟩
    cases h
    exact ⟨d, more, hd, hmore, rfl⟩
  · rintro ⟨d, more, hd, hmore, rfl⟩
    exact ⟨d, hd, more, hmore, rfl⟩

theorem openDevices_ok (h : openDevices s options paths = .ok devices) :
    ∀ d ∈ devices, ∃ path ∈ paths,
      Backing.openAt s options.purpose options.overwrite options.config path = .ok d := by
  induction paths generalizing devices with
  | nil =>
    cases h
    simp
  | cons path rest ih =>
    obtain ⟨d, more, hd, hmore, rfl⟩ := openDevices_cons_eq_ok_iff.mp h
    refine List.forall_mem_cons.mpr ⟨⟨path, List.mem_cons_self, hd⟩, fun e he => ?_⟩
    obtain ⟨path', hpath', he⟩ := ih hmore e he
    exact ⟨path', List.mem_cons_of_mem _ hpath', he⟩

theorem opened_of_openDevices (h : openDevices s options paths = .ok devices) :
    ∀ d ∈ devices, d.Opened := by
  intro d hd
  obtain ⟨path, -, hopen⟩ := openDevices_ok h d hd
  exact ⟨s, _, _, _, path, d, hopen, .inl rfl⟩

theorem openAt_eq_ok_iff :
    openAt s options paths = .ok set ↔
      ∃ devices, openDevices s options paths = .ok devices ∧
        assemble s options.label devices options.zoneSectors = .ok set := by
  unfold openAt
  exact bind_eq_ok_iff

/-! ## The whole -/

/-- What assembling goes through, with the devices as they are after adoption. -/
structure Stages (s : Storage) (label : Option String) (devices : List Backing)
    (emulated : Option Nat) (adopted : List Backing) (set : DeviceSet) : Prop where
  chosen : ∃ first rest, devices = first :: rest ∧
    chooseZoneSize first rest emulated = .ok set.zoneSectors
  adoption : adoptZoneSize set.zoneSectors devices = .ok adopted
  laid : layOut 0 adopted = .ok set.devices
  collected : (collectZones (label.getD (joinedNames devices)) (membersOf set.devices)
    set.zoneSectors (reporter s set.devices)).result = .ok set.zones
  capacity_eq : set.capacity = totalCapacity (membersOf set.devices)

theorem exists_stages (h : assemble s label devices emulated = .ok set) :
    ∃ adopted, Stages s label devices emulated adopted set := by
  unfold assemble at h
  cases devices with
  | nil => cases h
  | cons first rest =>
    obtain ⟨zoneSectors, hchosen, h⟩ := bind_eq_ok_iff.mp h
    obtain ⟨adopted, hadopted, h⟩ := bind_eq_ok_iff.mp h
    obtain ⟨out, hout, h⟩ := bind_eq_ok_iff.mp h
    obtain ⟨zones, hzones, h⟩ := bind_eq_ok_iff.mp h
    cases h
    exact ⟨adopted, ⟨first, rest, rfl, hchosen⟩, hadopted, hout, hzones, rfl⟩

/-- A set that these stages make is the one that assembling gives. -/
theorem Stages.assemble_eq {adopted : List Backing}
    (stages : Stages s label devices emulated adopted set)
    (hlabel : set.label = label.getD (joinedNames devices)) :
    assemble s label devices emulated = .ok set := by
  obtain ⟨⟨first, rest, rfl, hchosen⟩, adoption, laid, collected, capacity_eq⟩ := stages
  refine bind_eq_ok_iff.mpr ⟨_, hchosen, bind_eq_ok_iff.mpr ⟨_, adoption,
    bind_eq_ok_iff.mpr ⟨_, laid, bind_eq_ok_iff.mpr ⟨_, collected, ?_⟩⟩⟩⟩
  rw [← hlabel, ← capacity_eq]
  rfl

/-- What assembling makes sure of: there is a device, all lie end to end, and their capacities
make up that of the set. -/
structure Coherent (set : DeviceSet) : Prop where
  laid : LaidOut (membersOf set.devices)
  nonempty : set.devices ≠ []
  capacity_eq : set.capacity = totalCapacity (membersOf set.devices)

/-- The space is divided into zones: all devices have the zone size of the set, which can be used,
and the zones of the set are as many as theirs. -/
structure Divided (set : DeviceSet) : Prop where
  valid : Backing.validZoneSize set.zoneSectors = true
  sized : ∀ d ∈ set.devices, d.Sized set.zoneSectors
  zones_eq : set.zones.size = totalZones (membersOf set.devices)
  zones_le : set.zones.size ≤ zoneLimit

/-- **What assembling comes to.** The devices stay what they are, but for what the set gives
them. -/
theorem assemble_ok (h : assemble s label devices emulated = .ok set)
    (opened : ∀ d ∈ devices, d.Opened) :
    set.devices.map Backing.unplaced = devices.map Backing.unplaced ∧ set.Coherent ∧
      set.Divided := by
  obtain ⟨adopted, stages⟩ := exists_stages h
  obtain ⟨first, rest, rfl, hchosen⟩ := stages.chosen
  obtain ⟨hvalid, hagree⟩ := chooseZoneSize_ok hchosen fun d hd hz => ((opened d hd).zoned hz).1
  obtain ⟨hadopted, hsized⟩ := adoptZoneSize_ok stages.adoption fun d hd hz =>
    hagree d hd hz ▸ ((opened d hd).zoned hz).2
  obtain ⟨hunlaid, hlaid⟩ := layOut_ok stages.laid fun d hd => (hsized d hd).capacity_pos
  have hsame := (Backing.map_unplaced_of_unlaid hunlaid).trans hadopted
  obtain ⟨passes, account⟩ := exists_account stages.collected
  refine ⟨hsame, ⟨⟨hlaid, account.capacity_lt⟩, ?_, stages.capacity_eq⟩, hvalid,
    Backing.sized_of_unlaid hunlaid hsized, account.size_eq, ?_⟩
  · intro hnil
    simp [hnil] at hsame
  · rw [account.size_eq]
    exact account.total_le

/-- **A set of opened devices is coherent.** -/
theorem coherent_of_assemble (h : assemble s label devices emulated = .ok set)
    (opened : ∀ d ∈ devices, d.Opened) : set.Coherent :=
  (assemble_ok h opened).2.1

theorem exists_assemble_of_openAt (h : openAt s options paths = .ok set) :
    ∃ devices, openDevices s options paths = .ok devices ∧ (∀ d ∈ devices, d.Opened) ∧
      assemble s options.label devices options.zoneSectors = .ok set := by
  obtain ⟨devices, hdevices, h⟩ := openAt_eq_ok_iff.mp h
  exact ⟨devices, hdevices, opened_of_openDevices hdevices, h⟩

theorem coherent_of_openAt (h : openAt s options paths = .ok set) : set.Coherent := by
  obtain ⟨devices, -, opened, h⟩ := exists_assemble_of_openAt h
  exact coherent_of_assemble h opened

theorem divided_of_openAt (h : openAt s options paths = .ok set) : set.Divided := by
  obtain ⟨devices, -, opened, h⟩ := exists_assemble_of_openAt h
  exact (assemble_ok h opened).2.2

/-- A device of an opened set was opened at one of the paths. -/
theorem exists_opening (h : openAt s options paths = .ok set) (he : e ∈ set.devices) :
    ∃ path ∈ paths, ∃ d, e.unplaced = d.unplaced ∧
      Backing.openAt s options.purpose options.overwrite options.config path = .ok d := by
  obtain ⟨devices, hdevices, opened, h⟩ := exists_assemble_of_openAt h
  obtain ⟨d, hd, hsame⟩ := Backing.exists_of_map_unplaced (assemble_ok h opened).1 he
  obtain ⟨path, hpath, hopen⟩ := openDevices_ok hdevices d hd
  exact ⟨path, hpath, d, hsame, hopen⟩

/-- The bytes of a device of an opened set can be counted in a word. -/
theorem capacity_mul_lt_of_openAt (bounded : s.Bounded) (h : openAt s options paths = .ok set)
    (he : e ∈ set.devices) : e.capacity * bytesPerSector < Word.limit := by
  obtain ⟨path, -, d, hsame, hopen⟩ := exists_opening h he
  rw [Backing.capacity_eq_of_unplaced_eq hsame]
  exact Backing.capacity_mul_lt bounded hopen

theorem exists_openFile (h : openAt s options paths = .ok set) (he : e ∈ set.devices) :
    ∃ path hd, s.openFile .openWrite path = .ok hd ∧ e.handle = some hd := by
  obtain ⟨given, -, d, hsame, hopen⟩ := exists_opening h he
  obtain ⟨path, isBlock, hd, -, -, hopen, hclassify⟩ := Backing.openAt_eq_ok_iff.mp hopen
  refine ⟨path, hd, hopen, ?_⟩
  rw [Backing.handle_eq_of_unplaced_eq hsame]
  exact (Backing.classify_ok hclassify).handle_eq

end DeviceSet

/-! ## Two image files

Files of sixteen and of nine sectors. The second one ends within a block. -/

def twoImages : Storage :=
  (Storage.bare.putFile "/a" (.zeros 8192)).putFile "/b" (.zeros 4608)

theorem nodes_twoImages :
    twoImages.nodes = #[
      .directory [("dev", 1), ("proc", 2), ("a", 5), ("b", 6)],
      .directory [("null", 3)],
      .directory [("mounts", 4)],
      .sink,
      .file (.zeros 0),
      .file (.zeros 8192),
      .file (.zeros 4608)] := rfl

theorem bounded_twoImages : twoImages.Bounded := by
  intro node image h
  have hmem := Array.mem_of_getElem? h
  rw [nodes_twoImages] at hmem
  obtain rfl | rfl | rfl : image = .zeros 0 ∨ image = .zeros 8192 ∨ image = .zeros 4608 := by
    simpa using hmem
  · decide
  · decide
  · decide

/-- Looks at files, with zones of one block. -/
def inspectFiles : OpenOptions :=
  ⟨.inspect, false, some 8, none, ⟨"/sys", "/proc/mounts", true⟩⟩

def imageA : Backing := ⟨⟨"a", .regular, 16, 0, 0⟩, "/a", some ⟨5, "/a"⟩, 0⟩

def imageB : Backing := ⟨⟨"b", .regular, 9, 0, 0⟩, "/b", some ⟨6, "/b"⟩, 0⟩

def imageSet : DeviceSet where
  label := "a+b"
  devices := [
    { imageA with zoneCount := 2, zoneSectors := 8 },
    { imageB with zoneCount := 2, zoneSectors := 8, blockOffset := 2 }]
  capacity := 25
  zoneSectors := 8
  zones := #[.emulated 0 8, .emulated 8 8, .emulated 16 8, .emulated 24 1]

theorem eq_ok_of_toOption {ε α : Type} {x : Except ε α} {a : α} (h : x.toOption = some a) :
    x = .ok a := by
  cases x with
  | error e => cases h
  | ok b => exact congrArg Except.ok (Option.some.inj h)

theorem eq_mk_ok_of_toOption {σ ε α : Type} {x : σ × Except ε α} {a : α}
    (h : x.2.toOption = some a) : x = (x.1, .ok a) :=
  Prod.ext rfl (eq_ok_of_toOption h)

theorem openDevices_twoImages :
    DeviceSet.openDevices twoImages inspectFiles ["/a", "/b"] = .ok [imageA, imageB] :=
  eq_ok_of_toOption (by decide +kernel)

theorem assemble_twoImages :
    DeviceSet.assemble twoImages none [imageA, imageB] (some 8) = .ok imageSet :=
  eq_ok_of_toOption (by decide +kernel)

theorem openAt_twoImages :
    DeviceSet.openAt twoImages inspectFiles ["/a", "/b"] = .ok imageSet := by
  rw [DeviceSet.openAt, openDevices_twoImages]
  exact assemble_twoImages

end ZonedSet
