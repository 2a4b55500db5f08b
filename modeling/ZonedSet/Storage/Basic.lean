/-
ZonedSet.Storage.Basic — files, directories, symbolic links and block devices.

Storage is a table of nodes; directories give names to nodes. A path is followed name by name, and
what is reached is known both by its node and by the names that lead to it without links, its
canonical path. A block device is a file whose canonical path is on the list of block devices.

Any call may be made to fail, or to move fewer bytes than asked, by a fault on a path. Calls that
take a path go by the path as it was written; calls on an open file go by its canonical path.
-/
import ZonedSet.Storage.Image
import ZonedSet.Storage.Path
import ZonedSet.Storage.Block
import ZonedSet.Text.Utf8

namespace ZonedSet

/-! ## Nodes and faults -/

/-- Something that has a name. -/
inductive Node where
  | directory (entries : List (String × Nat))
  | file (image : Image)
  | link (target : String)
  /-- The null device: empty, and swallows all. -/
  | sink

/-- The calls that a fault may strike. -/
inductive FaultSite where
  | openRead
  | openWrite
  | stat
  | read
  | write
  | sync
  deriving DecidableEq, Repr, Inhabited

/-- What a fault does. -/
inductive FaultEffect where
  | fail (errno : Errno)
  /-- At most so many bytes are moved. -/
  | cut (bytes : Nat)
  deriving DecidableEq, Repr, Inhabited

/-- A fault on a path. -/
structure Fault where
  path : String
  site : FaultSite
  effect : FaultEffect
  deriving DecidableEq, Repr, Inhabited

/-- The names and nodes from the root to a place, the deepest first. -/
abbrev Trail := List (String × Nat)

/-- Everything stored. -/
structure Storage where
  nodes : Array Node
  /-- The directory in which relative paths start. -/
  home : Trail
  /-- Block devices by canonical path, the latest first. -/
  blocks : List (String × BlockDevice)
  /-- Of several faults on one path and call, the first counts. -/
  faults : List Fault

/-- What a path leads to. -/
inductive FileKind where
  | blockDevice
  | regular
  | other
  deriving DecidableEq, Repr, Inhabited

/-- An open file: its node, and the canonical path under which it was opened. -/
structure Handle where
  node : Nat
  path : String
  deriving DecidableEq, Repr, Inhabited

namespace Storage

/-! ## Paths -/

/-- The node at the end of a trail; the root has number zero. -/
def nodeId (trail : Trail) : Nat := (trail.head?.map Prod.snd).getD 0

/-- The most symbolic links on the way to one place. -/
def linkLimit : Nat := 40

/-- The most bytes in a name. -/
def nameLimit : Nat := 255

/-- The number of bytes that a path has to stay below. -/
def pathLimit : Nat := 4096

/-- One more than the largest offset in a file: the 63rd power of two. -/
def offsetLimit : Nat := 9223372036854775808

/-- Follows names from a place on. At a symbolic link `jump` takes over: it gets the place where the
target of the link starts, and all names still to be followed. -/
def followNames (nodes : Array Node) (jump : Trail → List String → Except Errno Trail)
    (trail : Trail) : List String → Except Errno Trail
  | [] => .ok trail
  | name :: rest =>
    match nodes[nodeId trail]? with
    | some (.directory entries) =>
      if name = "." then followNames nodes jump trail rest
      else if name = ".." then followNames nodes jump trail.tail rest
      else if nameLimit < name.utf8ByteSize then .error .nameTooLong
      else
        match entries.lookup name with
        | none => .error .noEntry
        | some id =>
          match nodes[id]? with
          | some (.link target) =>
            jump (if Path.isAbsolute target then [] else trail) (Path.names target ++ rest)
          | _ => followNames nodes jump ((name, id) :: trail) rest
    | _ => .error .notDirectory

/-- Follows names from a place on, through at most `links` symbolic links. -/
def follow (nodes : Array Node) : (links : Nat) → Trail → List String → Except Errno Trail
  | 0 => followNames nodes fun _ _ => .error .linkLoop
  | links + 1 => followNames nodes (follow nodes links)

/-- Where a path leads to, however long its text is. -/
def locate (s : Storage) (path : String) : Except Errno Trail :=
  if path.isEmpty then .error .noEntry
  else if path.toList.contains '\x00' then .error .unknown
  else follow s.nodes linkLimit (if Path.isAbsolute path then [] else s.home) (Path.names path)

/-- Where a path leads to that is handed to a call. Its text has to stay below the limit. -/
def resolve (s : Storage) (path : String) : Except Errno Trail :=
  if pathLimit ≤ path.utf8ByteSize && !path.toList.contains '\x00' then .error .nameTooLong
  else s.locate path

/-- The path of a place, without links. -/
def pathOf (trail : Trail) : String := Path.ofNames (trail.reverse.map Prod.fst)

/-- The canonical form of a path. It is found name by name, so that it, and not the path, has to
stay below the limit: a path may go round in circles for as long as it likes. -/
def canonicalPath (s : Storage) (path : String) : Except Errno String :=
  match s.locate path with
  | .error e => .error e
  | .ok trail =>
    if pathLimit ≤ (pathOf trail).utf8ByteSize then .error .nameTooLong else .ok (pathOf trail)

/-- The absolute form of a path, as text: nothing is followed. -/
def absolutePath (s : Storage) (path : String) : String := Path.join (pathOf s.home) path

/-! ## Calls on paths -/

/-- What a fault does to a call on a path. -/
def faultOn (s : Storage) (site : FaultSite) (path : String) : Option FaultEffect :=
  (s.faults.find? fun f => f.path == path && f.site == site).map Fault.effect

/-- The failure that a fault makes of a call on a path. -/
def failureOn (s : Storage) (site : FaultSite) (path : String) : Option Errno :=
  match s.faultOn site path with
  | some (.fail e) => some e
  | _ => none

/-- The block device with this canonical path. -/
def block? (s : Storage) (path : String) : Option BlockDevice := s.blocks.lookup path

/-- What a path leads to. -/
def stat (s : Storage) (path : String) : Except Errno FileKind :=
  match s.failureOn .stat path with
  | some e => .error e
  | none =>
    match s.resolve path with
    | .error e => .error e
    | .ok trail =>
      match s.nodes[nodeId trail]? with
      | some (.file _) =>
        .ok (if (s.block? (pathOf trail)).isSome then .blockDevice else .regular)
      | _ => .ok .other

/-- Opens what a path leads to. A directory cannot be opened for writing. -/
def openFile (s : Storage) (site : FaultSite) (path : String) : Except Errno Handle :=
  match s.failureOn site path with
  | some e => .error e
  | none =>
    match s.resolve path with
    | .error e => .error e
    | .ok trail =>
      match site, s.nodes[nodeId trail]? with
      | .openWrite, some (.directory _) => .error .isDirectory
      | _, _ => .ok ⟨nodeId trail, pathOf trail⟩

/-- The names in a directory. -/
def entryNames (s : Storage) (path : String) : Except Errno (List String) :=
  match s.resolve path with
  | .error e => .error e
  | .ok trail =>
    match s.nodes[nodeId trail]? with
    | some (.directory entries) => .ok (entries.map Prod.fst)
    | _ => .error .notDirectory

/-! ## Calls on open files -/

/-- The bytes of an open file. -/
def imageOf (s : Storage) (h : Handle) : Except Errno Image :=
  match s.nodes[h.node]? with
  | some (.file image) => .ok image
  | some .sink => .ok (.zeros 0)
  | _ => .error .isDirectory

/-- The whole text of a file, which has to be UTF-8. -/
def readText (s : Storage) (path : String) : Except Errno (List Char) :=
  match s.openFile .openRead path with
  | .error e => .error e
  | .ok h =>
    match s.imageOf h with
    | .error e => .error e
    | .ok image =>
      match Text.Utf8.decode? image.toList with
      | some text => .ok text
      | none => .error .unknown

/-- How many bytes a call moves, when a fault on the file allows it. -/
def allowance (s : Storage) (site : FaultSite) (h : Handle) (offset length : Nat) :
    Except Errno Nat :=
  match s.faultOn site h.path with
  | some (.fail e) => .error e
  | effect =>
    let most := match effect with
      | some (.cut n) => min length n
      | _ => length
    if offsetLimit ≤ offset + most then .error .invalidArgument else .ok most

/-- Reads once: what is there, up to `length` bytes, or fewer if a fault says so. -/
def readAt (s : Storage) (h : Handle) (offset length : Nat) : Except Errno (List UInt8) :=
  match s.allowance .read h offset length with
  | .error e => .error e
  | .ok most =>
    match s.imageOf h with
    | .error e => .error e
    | .ok image => .ok (image.read offset most)

/-- Writes once, and tells how many bytes were written. -/
def writeAt (s : Storage) (h : Handle) (offset : Nat) (bytes : Array UInt8) :
    Storage × Except Errno Nat :=
  match s.allowance .write h offset bytes.size with
  | .error e => (s, .error e)
  | .ok most =>
    match s.nodes[h.node]? with
    | some (.file image) =>
      let written := image.write offset (bytes.take most)
      ({ s with nodes := s.nodes.setIfInBounds h.node (.file written) }, .ok most)
    | some .sink => (s, .ok most)
    | _ => (s, .error .isDirectory)

/-- Can all these bytes be read, in as many calls as it takes? Nothing is read when there is
nothing to read, and a call that yields no byte ends the attempt. -/
def readable (s : Storage) (h : Handle) (offset length : Nat) : Except Errno Unit :=
  if length = 0 then .ok ()
  else
    match s.faultOn .read h.path with
    | some (.fail e) => .error e
    | some (.cut 0) => .error .unknown
    | _ =>
      match s.imageOf h with
      | .error e => .error e
      | .ok image => if offset + length ≤ image.size then .ok () else .error .unknown

/-- Makes written bytes last. -/
def flush (s : Storage) (h : Handle) : Except Errno Unit :=
  match s.failureOn .sync h.path with
  | some e => .error e
  | none => .ok ()

/-- The capacity of a block device, in bytes. -/
def blockCapacity (s : Storage) (h : Handle) : Except Errno Nat :=
  match s.block? h.path with
  | some device => device.capacity.map UInt64.toNat
  | none => .error .notTypewriter

/-- A block device's zones from a local sector on, in a prepared buffer. -/
def reportZones (s : Storage) (h : Handle) (sector : Nat) (buffer : ReportBuffer) :
    Except Errno ReportBuffer :=
  match s.block? h.path with
  | some device => device.report sector buffer
  | none => .error .notTypewriter

end Storage

end ZonedSet
