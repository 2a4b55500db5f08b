/-
ZonedSet.Proofs.Opening.Precedence — what opening a mounted device comes to.

Opening a device that the mount table lists always fails. The error says that the device is mounted
unless the search for content, which comes before the look into the table, has already failed or
found something (`Backing.openAt_listed`). That search is made before formatting without leave to
overwrite, and at no other time; so it is for this purpose only that content hides a mount
(`Backing.content_before_mount`).
-/
import ZonedSet.Proofs.Opening.Mounted
import ZonedSet.Proofs.Signature.Sampling

namespace ZonedSet

theorem ok_bind {ε α β : Type} (a : α) (f : α → Except ε β) : Except.ok a >>= f = f a := rfl

theorem error_bind {ε α β : Type} (e : ε) (f : α → Except ε β) :
    Except.error e >>= f = .error e := rfl

namespace Backing

variable {s : Storage} {purpose : Purpose} {overwrite : Bool} {config : Config}
  {given c : String} {table : List Char} {isBlock : Bool} {e : Error}

/-! ## Checks that fail -/

/-- An entry for the canonical path fails the look into the mount table. -/
theorem refuseMounted_of_mem (readable : s.readText config.mountTable = .ok table)
    (listed : c.toList ∈ MountTable.sources table) :
    refuseMounted s config c = .error (.deviceMounted c) := by
  have hlists := MountTable.lists_iff.mpr listed
  have hmounted : MountTable.isMounted s config.mountTable c = .ok true := by
    rw [MountTable.isMounted, readable, ← hlists]
  rw [refuseMounted, hmounted]
  rfl

theorem refuseContent_of_found {content : Content} (h : Probe.content? s c = .ok (some content)) :
    refuseContent s c = .error (.existingContent c content) := by
  rw [refuseContent, h]
  rfl

theorem refuseContent_of_error (h : Probe.content? s c = .error e) :
    refuseContent s c = .error e := by
  rw [refuseContent, h]
  rfl

/-- The path leads to a block device, or to a plain file where files are allowed. -/
theorem exists_isBlockDevice
    (usable : s.stat c = .ok .blockDevice ∨ s.stat c = .ok .regular ∧ config.allowFiles = true) :
    ∃ isBlock, isBlockDevice s config c = .ok isBlock := by
  rcases usable with hblock | hfile
  · exact ⟨true, isBlockDevice_eq_ok_iff.mpr (.inl ⟨hblock, rfl⟩)⟩
  · exact ⟨false, isBlockDevice_eq_ok_iff.mpr (.inr ⟨hfile, rfl⟩)⟩

/-! ## Opening, up to the failure -/

section

variable (hc : s.canonicalPath given = .ok c) (device : isBlockDevice s config c = .ok isBlock)
include hc device

/-- Before formatting, the search for content comes first. -/
theorem openAt_of_refuseContent (h : refuseContent s c = .error e) :
    openAt s .format false config given = .error e := by
  rw [openAt, locate_eq_ok_iff.mpr hc, ok_bind, device, ok_bind, if_pos ⟨rfl, rfl⟩, h, error_bind]

/-- Where nothing is searched, or nothing found, the look into the mount table comes first. -/
theorem openAt_of_refuseMounted
    (hempty : purpose = .format → overwrite = false → refuseContent s c = .ok ())
    (h : refuseMounted s config c = .error e) :
    openAt s purpose overwrite config given = .error e := by
  rw [openAt, locate_eq_ok_iff.mpr hc, ok_bind, device, ok_bind]
  by_cases searched : purpose = .format ∧ overwrite = false
  · rw [if_pos searched, hempty searched.1 searched.2, ok_bind, h, error_bind]
  · rw [if_neg searched, h, error_bind]

end

/-- **What opening a mounted device comes to.** It fails. The error is that the device is mounted,
unless content was searched for, and was found or could not be told: then that is the error. -/
theorem openAt_listed (readable : s.readText config.mountTable = .ok table)
    (hc : s.canonicalPath given = .ok c)
    (usable : s.stat c = .ok .blockDevice ∨ s.stat c = .ok .regular ∧ config.allowFiles = true)
    (listed : c.toList ∈ MountTable.sources table) (purpose : Purpose) (overwrite : Bool) :
    (openAt s purpose overwrite config given = .error (.deviceMounted c) ↔
      (purpose = .format → overwrite = false → Probe.content? s c = .ok none)) ∧
    (purpose = .format → overwrite = false →
      (∀ content, Probe.content? s c = .ok (some content) →
        openAt s purpose overwrite config given = .error (.existingContent c content)) ∧
      ∀ e, Probe.content? s c = .error e → (∃ errno, e = .probeFailed c errno) ∧
        openAt s purpose overwrite config given = .error e) := by
  obtain ⟨isBlock, device⟩ := exists_isBlockDevice usable
  have hmounted := refuseMounted_of_mem readable listed
  have hfound {content : Content} (h : Probe.content? s c = .ok (some content)) :
      openAt s .format false config given = .error (.existingContent c content) :=
    openAt_of_refuseContent hc device (refuseContent_of_found h)
  have hfailed {e : Error} (h : Probe.content? s c = .error e) :
      openAt s .format false config given = .error e :=
    openAt_of_refuseContent hc device (refuseContent_of_error h)
  refine ⟨⟨?_, ?_⟩, ?_⟩
  · rintro h rfl rfl
    cases hcontent : Probe.content? s c with
    | error e =>
      obtain ⟨errno, rfl⟩ := Probe.exists_probeFailed hcontent
      rw [hfailed hcontent] at h
      cases h
    | ok found =>
      cases found with
      | none => rfl
      | some content =>
        rw [hfound hcontent] at h
        cases h
  · intro hnone
    refine openAt_of_refuseMounted hc device (fun hformat hkeep => ?_) hmounted
    exact refuseContent_eq_ok_iff.mpr (hnone hformat hkeep)
  · rintro rfl rfl
    exact ⟨fun _ => hfound, fun e h => ⟨Probe.exists_probeFailed h, hfailed h⟩⟩

/-! ## A mounted file with content -/

/-- The file that is mounted by its own name, and has a link, with an ext2 file system on it. -/
def mountedExt : Storage :=
  (mountedAs 0x61 ("l", 6)).putFile "/a" ((Image.zeros 2048).overwrite 1080 #[0x53, 0xEF])

theorem readText_mountedExt :
    mountedExt.readText inspectFiles.config.mountTable = .ok "/a /mnt\n".toList :=
  eq_ok_of_toOption (by decide +kernel)

theorem canonicalPath_mountedExt : mountedExt.canonicalPath "/l" = .ok "/a" :=
  eq_ok_of_toOption (by decide +kernel)

theorem stat_mountedExt : mountedExt.stat "/a" = .ok .regular :=
  eq_ok_of_toOption (by decide +kernel)

/-- The file is looked at through the link, whatever is on it. -/
theorem openAt_listed_mountedExt :
    mountedExt.readText inspectFiles.config.mountTable = .ok "/a /mnt\n".toList ∧
      mountedExt.canonicalPath "/l" = .ok "/a" ∧
      mountedExt.stat "/a" = .ok .regular ∧ inspectFiles.config.allowFiles = true ∧
      "/a".toList ∈ MountTable.sources "/a /mnt\n".toList ∧
      openAt mountedExt .inspect false inspectFiles.config "/l" =
        .error (.deviceMounted "/a") := by
  have listed : "/a".toList ∈ MountTable.sources "/a /mnt\n".toList := by decide +kernel
  refine ⟨readText_mountedExt, canonicalPath_mountedExt, stat_mountedExt, rfl, listed, ?_⟩
  have h := openAt_listed readText_mountedExt canonicalPath_mountedExt
    (.inr ⟨stat_mountedExt, rfl⟩) listed .inspect false
  exact h.1.mpr (fun hformat => nomatch hformat)

/-- A file that the table lists is refused for what is on it. -/
theorem content_before_mount :
    mountedExt.readText inspectFiles.config.mountTable = .ok "/a /mnt\n".toList ∧
      mountedExt.canonicalPath "/l" = .ok "/a" ∧
      mountedExt.stat "/a" = .ok .regular ∧ inspectFiles.config.allowFiles = true ∧
      "/a".toList ∈ MountTable.sources "/a /mnt\n".toList ∧
      openAt mountedExt .format false inspectFiles.config "/l" =
        .error (.existingContent "/a" (.filesystem "ext2")) := by
  refine ⟨readText_mountedExt, canonicalPath_mountedExt, stat_mountedExt, rfl,
    by decide +kernel, ?_⟩
  have device : isBlockDevice mountedExt inspectFiles.config "/a" = .ok false :=
    isBlockDevice_eq_ok_iff.mpr (.inr ⟨⟨stat_mountedExt, rfl⟩, rfl⟩)
  have hcontent : Probe.content? mountedExt "/a" = .ok (some (.filesystem "ext2")) :=
    eq_ok_of_toOption (by decide +kernel)
  exact openAt_of_refuseContent canonicalPath_mountedExt device (refuseContent_of_found hcontent)

end Backing

end ZonedSet
