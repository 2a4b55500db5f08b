/-
ZonedSet.Proofs.Opening.Mounted — which mounts keep a device from being opened.

The path that a caller gives is resolved before anything else, so the name it goes by is its
canonical one. The sources in the mount table are not resolved: a source counts where it is, as
text, that canonical path (`Backing.refuseMounted_iff`). A caller therefore does not get around the
check by giving a device another name. A table does, by giving it another one: a symbolic link, or
a second name of the same node (`mounted_elsewhere_opened`).

Where nothing has two names, a canonical source can only be the canonical path of the node it leads
to (`Storage.SingleNamed.canonicalPath_eq`), and the check finds every device whose source is
written so.
-/
import ZonedSet.Proofs.Opening.Naming
import ZonedSet.Proofs.Opening.Policy

namespace ZonedSet

/-! ## Sources -/

namespace MountTable

/-- The sources of a mount table, line by line. -/
def sources (table : List Char) : List (List Char) :=
  (Text.lines table).filterMap fun line => (Text.firstWord? line).map source

theorem lineNames_iff {path line : List Char} :
    lineNames path line = true ↔ (Text.firstWord? line).map source = some path := by
  unfold lineNames
  cases Text.firstWord? line with
  | none => simp
  | some field => simp

theorem lists_iff {table path : List Char} : lists table path = true ↔ path ∈ sources table := by
  unfold lists sources
  simp only [List.any_eq_true, List.mem_filterMap, lineNames_iff]

end MountTable

/-! ## One node under two paths -/

namespace Storage

variable {s : Storage} {path other : String}

/-- Two paths lead to the same node, each in its own way. -/
def SameNode (s : Storage) (path other : String) : Prop :=
  ∃ trail trail', s.locate path = .ok trail ∧ s.locate other = .ok trail' ∧
    nodeId trail = nodeId trail'

theorem canonicalPath_eq_ok {c : String} (h : s.canonicalPath path = .ok c) :
    ∃ trail, s.locate path = .ok trail ∧ c = pathOf trail := by
  unfold canonicalPath at h
  split at h
  · cases h
  · rename_i trail htrail
    split at h
    · cases h
    · cases h
      exact ⟨trail, htrail, rfl⟩

/-- **Paths to the same node have the same canonical form,** where nothing has two names. -/
theorem SingleNamed.canonicalPath_eq (single : s.SingleNamed) (same : s.SameNode path other)
    {c c' : String} (h : s.canonicalPath path = .ok c) (h' : s.canonicalPath other = .ok c') :
    c = c' := by
  obtain ⟨trail, trail', htrail, htrail', hnode⟩ := same
  obtain ⟨place, hplace, rfl⟩ := canonicalPath_eq_ok h
  obtain ⟨place', hplace', rfl⟩ := canonicalPath_eq_ok h'
  obtain rfl : trail = place := Except.ok.inj (htrail.symm.trans hplace)
  obtain rfl : trail' = place' := Except.ok.inj (htrail'.symm.trans hplace')
  rw [(single.reached_of_locate htrail).eq_of_nodeId single (single.reached_of_locate htrail')
    hnode]

end Storage

/-! ## Opening -/

namespace Backing

variable {s : Storage} {config : Config} {given : String} {table : List Char}

/-- **What the mount check compares:** the canonical path with every source, as texts. -/
theorem refuseMounted_iff (readable : s.readText config.mountTable = .ok table) (path : String) :
    refuseMounted s config path = .ok () ↔ path.toList ∉ MountTable.sources table := by
  rw [refuseMounted_eq_ok_iff, MountTable.isMounted, readable, ← MountTable.lists_iff]
  simp

/-- A device is not opened while the table has its canonical path as a source. -/
theorem openAt_ne_ok_of_mem (readable : s.readText config.mountTable = .ok table) {c : String}
    (hc : s.canonicalPath given = .ok c) (hmem : c.toList ∈ MountTable.sources table)
    (purpose : Purpose) (overwrite : Bool) (d : Backing) :
    openAt s purpose overwrite config given ≠ .ok d := by
  intro h
  obtain ⟨path, hpath, heligible⟩ := exists_eligible h
  obtain rfl : c = path := Except.ok.inj (hc.symm.trans hpath)
  have hcheck := refuseMounted_eq_ok_iff.mpr heligible.unmounted
  exact (refuseMounted_iff readable c).mp hcheck hmem

/-- **A mounted device is not opened under any name,** where the table has its canonical path. The
check passes just where it does not. Where nothing has two names, it is enough that the source is
canonical and leads to the device. -/
theorem openAt_mounted (readable : s.readText config.mountTable = .ok table) (given : String) :
    (∀ c, s.canonicalPath given = .ok c →
      (refuseMounted s config c = .ok () ↔ c.toList ∉ MountTable.sources table) ∧
      (c.toList ∈ MountTable.sources table → ∀ purpose overwrite d,
        openAt s purpose overwrite config given ≠ .ok d)) ∧
    (s.SingleNamed → ∀ source : String, source.toList ∈ MountTable.sources table →
      s.canonicalPath source = .ok source → s.SameNode source given → ∀ purpose overwrite d,
        openAt s purpose overwrite config given ≠ .ok d) := by
  constructor
  · intro c hc
    exact ⟨refuseMounted_iff readable c, openAt_ne_ok_of_mem readable hc⟩
  · intro single source hmem hsource same purpose overwrite d h
    obtain ⟨c, hc, -⟩ := exists_eligible h
    obtain rfl := single.canonicalPath_eq same hsource hc
    exact openAt_ne_ok_of_mem readable hc hmem purpose overwrite d h

/-! ## A file under two names

A file called `a`, one more name for it in the root, and a mount table of one line. The source in
that line is a name of one letter in the root, given by its code. The other name may be that of a
link, which is the node with number six, or of the file itself, which has number five. -/

def mountedAs (letter : UInt8) (other : String × Nat) : Storage :=
  { Storage.bare with
    nodes := #[
      .directory [("dev", 1), ("proc", 2), ("a", 5), other],
      .directory [("null", 3)],
      .directory [("mounts", 4)],
      .sink,
      .file (.ofBytes #[0x2F, letter, 0x20, 0x2F, 0x6D, 0x6E, 0x74, 0x0A]),
      .file (.zeros 8192),
      .link "a"] }

/-- The file is mounted by its own name, and asked for through the link. -/
theorem openAt_mounted_link :
    (mountedAs 0x61 ("l", 6)).readText inspectFiles.config.mountTable =
        .ok "/a /mnt\n".toList ∧
      (mountedAs 0x61 ("l", 6)).SingleNamed ∧ (mountedAs 0x61 ("l", 6)).SameNode "/a" "/l" ∧
      ∀ purpose overwrite d,
        openAt (mountedAs 0x61 ("l", 6)) purpose overwrite inspectFiles.config "/l" ≠ .ok d := by
  have readable : (mountedAs 0x61 ("l", 6)).readText inspectFiles.config.mountTable =
      .ok "/a /mnt\n".toList := eq_ok_of_toOption (by decide +kernel)
  have single : (mountedAs 0x61 ("l", 6)).SingleNamed :=
    Storage.singleNamed_of_bindings (by decide +kernel) (by decide +kernel) rfl
  have same : (mountedAs 0x61 ("l", 6)).SameNode "/a" "/l" :=
    ⟨[("a", 5)], [("a", 5)], eq_ok_of_toOption (by decide +kernel),
      eq_ok_of_toOption (by decide +kernel), rfl⟩
  exact ⟨readable, single, same, (openAt_mounted readable "/l").2 single "/a" (by decide +kernel)
    (eq_ok_of_toOption (by decide +kernel)) same⟩

/-- A device is opened although the table lists it: by the very path that is given, which is a link,
or by a second name of the node. -/
theorem mounted_elsewhere_opened :
    ((mountedAs 0x6C ("l", 6)).readText inspectFiles.config.mountTable =
        .ok "/l /mnt\n".toList ∧
      "/l".toList ∈ MountTable.sources "/l /mnt\n".toList ∧ Path.isAbsolute "/l" = true ∧
      (mountedAs 0x6C ("l", 6)).SameNode "/l" "/l" ∧
      openAt (mountedAs 0x6C ("l", 6)) .inspect false inspectFiles.config "/l" = .ok imageA ∧
      openAt (mountedAs 0x6C ("l", 6)) .format false inspectFiles.config "/l" = .ok imageA) ∧
    ((mountedAs 0x62 ("b", 5)).readText inspectFiles.config.mountTable =
        .ok "/b /mnt\n".toList ∧
      "/b".toList ∈ MountTable.sources "/b /mnt\n".toList ∧
      (mountedAs 0x62 ("b", 5)).canonicalPath "/b" = .ok "/b" ∧
      (mountedAs 0x62 ("b", 5)).SameNode "/b" "/a" ∧
      openAt (mountedAs 0x62 ("b", 5)) .format false inspectFiles.config "/a" = .ok imageA) := by
  refine ⟨⟨?_, by decide +kernel, by decide, ?_, ?_, ?_⟩, ?_, by decide +kernel, ?_, ?_, ?_⟩
  · exact eq_ok_of_toOption (by decide +kernel)
  · exact ⟨[("a", 5)], [("a", 5)], eq_ok_of_toOption (by decide +kernel),
      eq_ok_of_toOption (by decide +kernel), rfl⟩
  · exact eq_ok_of_toOption (by decide +kernel)
  · exact eq_ok_of_toOption (by decide +kernel)
  · exact eq_ok_of_toOption (by decide +kernel)
  · exact eq_ok_of_toOption (by decide +kernel)
  · exact ⟨[("b", 5)], [("a", 5)], eq_ok_of_toOption (by decide +kernel),
      eq_ok_of_toOption (by decide +kernel), rfl⟩
  · exact eq_ok_of_toOption (by decide +kernel)

end Backing

end ZonedSet
