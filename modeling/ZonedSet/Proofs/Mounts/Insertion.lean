/-
ZonedSet.Proofs.Mounts.Insertion — what one more line in the mount table changes.

A mount table is read line by line, and a line names a path or does not, whatever the other lines
are. Where the table is cut behind a line feed, both parts are decoded, and looked through, each on
its own (`decode_append_of_ended`, `lists_append_of_ended`), because no character and no line
reaches over a line feed. So a line whose source is not the path changes no answer, as long as the
table can be read with it.

It cannot where the line is not UTF-8 (`isMounted_insert`). The file is decoded as a whole before
anybody looks for lines, and one malformed byte, in whatever field of whatever line, leaves no
answer for any path.
-/
import ZonedSet.Proofs.Mounts.Written

namespace ZonedSet.MountTable

/-! ## Cutting a table between lines -/

/-- Whole lines: nothing, or bytes that end with a line feed. -/
def Ended (bytes : List UInt8) : Prop := bytes = [] ∨ bytes.getLast? = some 0x0A

instance (bytes : List UInt8) : Decidable (Ended bytes) := inferInstanceAs (Decidable (_ ∨ _))

theorem Ended.cases {bytes : List UInt8} (h : Ended bytes) :
    bytes = [] ∨ ∃ front, bytes = front ++ [0x0A] := by
  rcases h with rfl | h
  · exact .inl rfl
  · exact .inr (List.getLast?_eq_some_iff.mp h)

variable {before after line : List UInt8} {s s' : Storage} {mountTable path : String}

theorem decode_append_of_ended (h : Ended before) (rest : List UInt8) :
    Text.Utf8.decode (before ++ rest) = Text.Utf8.decode before ++ Text.Utf8.decode rest := by
  rcases h.cases with rfl | ⟨front, rfl⟩
  · rfl
  · rw [List.append_assoc, List.singleton_append, Text.Utf8.decode_append_feed,
      Text.Utf8.decode_append_feed, List.append_assoc]
    rfl

theorem decodeLossy_append_of_ended (h : Ended before) (rest : List UInt8) :
    Text.Utf8.decodeLossy (before ++ rest) =
      Text.Utf8.decodeLossy before ++ Text.Utf8.decodeLossy rest := by
  rw [Text.Utf8.decodeLossy, decode_append_of_ended h, List.map_append]
  rfl

theorem lists_append_of_ended (h : Ended before) (rest path : List Char) :
    lists (Text.Utf8.decodeLossy before ++ rest) path =
      (lists (Text.Utf8.decodeLossy before) path || lists rest path) := by
  rcases h.cases with rfl | ⟨front, rfl⟩
  · rfl
  · have hfront : Text.Utf8.decodeLossy (front ++ [0x0A]) =
        Text.Utf8.decodeLossy front ++ ['\n'] :=
      Text.Utf8.decodeLossy_append_ascii (by decide) front []
    rw [hfront, List.append_assoc, List.singleton_append, lists, Text.lines_append,
      List.any_append]
    rfl

/-! ## A table with one more line -/

theorem none_mem_decode_insert (ended : Ended before) :
    none ∈ Text.Utf8.decode (before ++ (line ++ 0x0A :: after)) ↔
      none ∈ Text.Utf8.decode (before ++ after) ∨ none ∈ Text.Utf8.decode line := by
  rw [decode_append_of_ended ended, decode_append_of_ended ended, Text.Utf8.decode_append_feed]
  simp only [List.mem_append, List.mem_cons, reduceCtorEq, false_or]
  rw [or_assoc]
  exact or_congr_right or_comm

theorem lists_insert (ended : Ended before) (single : 0x0A ∉ line) (path : List Char) :
    lists (Text.Utf8.decodeLossy (before ++ (line ++ 0x0A :: after))) path =
      (lineNames path (Text.Utf8.decodeLossy line) ||
        lists (Text.Utf8.decodeLossy (before ++ after)) path) := by
  have hfeed : '\n' ∉ Text.Utf8.decodeLossy line := Text.Utf8.not_mem_decodeLossy (by decide) single
  have hline : lists (Text.Utf8.decodeLossy (line ++ 0x0A :: after)) path =
      (lineNames path (Text.Utf8.decodeLossy line) ||
        lists (Text.Utf8.decodeLossy after) path) := by
    rw [Text.Utf8.decodeLossy_append_ascii (by decide), lists]
    exact congrArg (List.any · (lineNames path)) (Text.lines_append_feed hfeed _)
  rw [decodeLossy_append_of_ended ended, decodeLossy_append_of_ended ended,
    lists_append_of_ended ended, lists_append_of_ended ended, hline, Bool.or_left_comm]

/-- **What a line does whose source is not the path.** Put in between two lines, or at either end of
the table, it changes no answer, if it is UTF-8. If it is not, the table cannot be read any
more. -/
theorem isMounted_insert (ended : Ended before) (single : 0x0A ∉ line)
    (reads : s.Reads mountTable (before ++ after))
    (reads' : s'.Reads mountTable (before ++ (line ++ 0x0A :: after)))
    (unrelated : (Text.firstWord? (Text.Utf8.decodeLossy line)).map source ≠ some path.toList)
    {verdict : Bool} (h : isMounted s mountTable path = .ok verdict) :
    isMounted s' mountTable path =
      if none ∈ Text.Utf8.decode line then
        .error (.os mountTable "read mount table" .unknown)
      else .ok verdict := by
  have hnames : lineNames path.toList (Text.Utf8.decodeLossy line) = false := by
    rw [← Bool.not_eq_true, lineNames_iff]
    exact unrelated
  rw [isMounted_of_reads reads] at h
  rw [isMounted_of_reads reads']
  by_cases htable : none ∈ Text.Utf8.decode (before ++ after)
  · rw [if_pos htable] at h
    cases h
  · rw [if_neg htable] at h
    obtain rfl := Except.ok.inj h
    simp only [none_mem_decode_insert ended, htable, false_or]
    rw [lists_insert ended single, hnames, Bool.false_or]

/-! ## A file and somebody else's mount

The table says that a file is mounted. A line is put in for a mount that has nothing to do with the
file. -/

/-- Storage with just a mount table. -/
def withTable (bytes : Array UInt8) : Storage :=
  { Storage.bare with
    nodes := #[
      .directory [("dev", 1), ("proc", 2)],
      .directory [("null", 3)],
      .directory [("mounts", 4)],
      .sink,
      .file (.ofBytes bytes)] }

theorem reads_withTable (bytes : Array UInt8) :
    (withTable bytes).Reads "/proc/mounts" bytes.toList :=
  ⟨⟨4, "/proc/mounts"⟩, .ofBytes bytes, rfl, rfl, Image.toList_ofBytes bytes⟩

/-- Two mounts, one of them of the file `/a`. -/
def twoMounts : Array UInt8 := #[0x2F, 0x62, 0x20, 0x2F, 0x0A, 0x2F, 0x61, 0x20, 0x2F, 0x0A]

/-- The same mounts, and between them one whose source has a letter outside ASCII. -/
def threeMounts : Array UInt8 :=
  #[0x2F, 0x62, 0x20, 0x2F, 0x0A, 0x2F, 0xC3, 0xA9, 0x20, 0x2F, 0x0A, 0x2F, 0x61, 0x20, 0x2F, 0x0A]

/-- The same again, but the letter is not encoded as UTF-8 has it, and not in the source. -/
def foreignMounts : Array UInt8 :=
  #[0x2F, 0x62, 0x20, 0x2F, 0x0A, 0x2F, 0x63, 0x20, 0x2F, 0xE9, 0x0A, 0x2F, 0x61, 0x20, 0x2F, 0x0A]

theorem reads_twoMounts : (withTable twoMounts).Reads "/proc/mounts"
    ([0x2F, 0x62, 0x20, 0x2F, 0x0A] ++ [0x2F, 0x61, 0x20, 0x2F, 0x0A]) := reads_withTable twoMounts

theorem isMounted_twoMounts : isMounted (withTable twoMounts) "/proc/mounts" "/a" = .ok true :=
  eq_ok_of_toOption (by decide +kernel)

theorem isMounted_insert_threeMounts :
    (withTable threeMounts).Reads "/proc/mounts"
        ([0x2F, 0x62, 0x20, 0x2F, 0x0A] ++
          ([0x2F, 0xC3, 0xA9, 0x20, 0x2F] ++ 0x0A :: [0x2F, 0x61, 0x20, 0x2F, 0x0A])) ∧
      isMounted (withTable threeMounts) "/proc/mounts" "/a" = .ok true := by
  have reads : (withTable threeMounts).Reads "/proc/mounts"
      ([0x2F, 0x62, 0x20, 0x2F, 0x0A] ++
        ([0x2F, 0xC3, 0xA9, 0x20, 0x2F] ++ 0x0A :: [0x2F, 0x61, 0x20, 0x2F, 0x0A])) :=
    reads_withTable threeMounts
  have h := isMounted_insert (by decide) (by decide) reads_twoMounts reads (by decide +kernel)
    isMounted_twoMounts
  exact ⟨reads, h.trans (if_neg (by decide +kernel))⟩

/-- A mount of something else, and there is no answer for the file any more. -/
theorem foreign_mount_hides_answer :
    (withTable twoMounts).Reads "/proc/mounts"
        ([0x2F, 0x62, 0x20, 0x2F, 0x0A] ++ [0x2F, 0x61, 0x20, 0x2F, 0x0A]) ∧
      (withTable foreignMounts).Reads "/proc/mounts"
        ([0x2F, 0x62, 0x20, 0x2F, 0x0A] ++
          ([0x2F, 0x63, 0x20, 0x2F, 0xE9] ++ 0x0A :: [0x2F, 0x61, 0x20, 0x2F, 0x0A])) ∧
      (Text.firstWord? (Text.Utf8.decodeLossy [0x2F, 0x63, 0x20, 0x2F, 0xE9])).map source =
        some "/c".toList ∧
      isMounted (withTable twoMounts) "/proc/mounts" "/a" = .ok true ∧
      isMounted (withTable foreignMounts) "/proc/mounts" "/a" =
        .error (.os "/proc/mounts" "read mount table" .unknown) := by
  refine ⟨reads_twoMounts, reads_withTable foreignMounts, by decide +kernel,
    isMounted_twoMounts, ?_⟩
  rw [isMounted_of_reads (reads_withTable foreignMounts), if_pos (by decide +kernel)]

end ZonedSet.MountTable
