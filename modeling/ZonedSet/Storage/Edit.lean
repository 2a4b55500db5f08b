/-
ZonedSet.Storage.Edit — building storage, and changing it from outside.

These changes are made by whoever owns the system: faults do not strike them, and directories that
are missing on the way are made.
-/
import ZonedSet.Storage.Basic

namespace ZonedSet.Storage

/-- Storage with a root, the null device, and a mount table without entries at its usual place.
Relative paths start at the root. -/
def bare : Storage where
  nodes := #[
    .directory [("dev", 1), ("proc", 2)],
    .directory [("null", 3)],
    .directory [("mounts", 4)],
    .sink,
    .file (.zeros 0)]
  home := []
  blocks := []
  faults := []

/-- The entries of a directory with a name bound to a node, in the place that the name had. -/
def bind (name : String) (id : Nat) : List (String × Nat) → List (String × Nat)
  | [] => [(name, id)]
  | (n, i) :: rest => if n = name then (name, id) :: rest else (n, i) :: bind name id rest

/-- Changes the entries of a directory. -/
def editEntries (s : Storage) (dir : Nat) (f : List (String × Nat) → List (String × Nat)) :
    Storage :=
  match s.nodes[dir]? with
  | some (.directory entries) =>
    { s with nodes := s.nodes.setIfInBounds dir (.directory (f entries)) }
  | _ => s

/-- Puts a new node under a name in a directory. -/
def addNode (s : Storage) (trail : Trail) (name : String) (node : Node) : Storage × Trail :=
  let id := s.nodes.size
  ({ s with nodes := s.nodes.push node }.editEntries (nodeId trail) (bind name id),
    (name, id) :: trail)

/-- Follows names and makes a directory wherever nothing is reached. -/
def makeWay (s : Storage) (trail : Trail) : List String → Storage × Trail
  | [] => (s, trail)
  | name :: rest =>
    match follow s.nodes linkLimit trail [name] with
    | .ok next => makeWay s next rest
    | .error _ =>
      let (s, next) := s.addNode trail name (.directory [])
      makeWay s next rest

/-- Where a path starts. -/
def startOf (s : Storage) (path : String) : Trail := if Path.isAbsolute path then [] else s.home

/-- Makes a directory. -/
def makeDirectory (s : Storage) (path : String) : Storage :=
  (s.makeWay (s.startOf path) (Path.names path)).1

/-- Lets relative paths start at a directory, which is made if there is none. -/
def enter (s : Storage) (path : String) : Storage :=
  match s.makeWay (s.startOf path) (Path.names path) with
  | (s, trail) => { s with home := trail }

/-- The directory in which the last name of a path stands, and that name. -/
def makeParent (s : Storage) (path : String) : Storage × Trail × Option String :=
  let names := Path.names path
  let (s, trail) := s.makeWay (s.startOf path) names.dropLast
  (s, trail, names.getLast?)

/-- Changes the node that a path leads to. -/
def editNode (s : Storage) (path : String) (f : Node → Node) : Storage :=
  match s.resolve path with
  | .ok trail => { s with nodes := s.nodes.modify (nodeId trail) f }
  | .error _ => s

/-- Where something new comes to stand that is made under a name in a directory: there, unless the
name is that of a symbolic link, which leads on to a name in another directory. -/
def landing (nodes : Array Node) : (links : Nat) → Trail → String → Option (Trail × String)
  | 0, _, _ => none
  | links + 1, trail, name =>
    if name = "." || name = ".." then none
    else
      match nodes[nodeId trail]? with
      | some (.directory entries) =>
        match (entries.lookup name).bind (nodes[·]?) with
        | some (.link target) =>
          match follow nodes linkLimit (if Path.isAbsolute target then [] else trail)
            (Path.names target).dropLast, (Path.names target).getLast? with
          | .ok place, some last => landing nodes links place last
          | _, _ => none
        | _ => some (trail, name)
      | _ => none

/-- Puts a node at a path: in place of the file that the path leads to, or as something new. A link
to something missing is followed, and what it leads to is made. Directories and devices stay. -/
def putNode (s : Storage) (path : String) (node : Node) : Storage :=
  match s.makeParent path with
  | (s, _, none) => s
  | (s, trail, some name) =>
    match follow s.nodes linkLimit trail [name] with
    | .ok place =>
      match s.nodes[nodeId place]? with
      | some (.file _) => { s with nodes := s.nodes.setIfInBounds (nodeId place) node }
      | _ => s
    | .error _ =>
      match landing s.nodes (linkLimit + 1) trail name with
      | some (place, last) => (s.addNode place last node).1
      | none => s

/-- Makes a file of these bytes, or gives a file that exists new bytes. -/
def putFile (s : Storage) (path : String) (image : Image) : Storage := s.putNode path (.file image)

/-- Makes a symbolic link, in place of what was there. -/
def putLink (s : Storage) (path target : String) : Storage :=
  match s.makeParent path with
  | (s, _, none) => s
  | (s, trail, some name) => (s.addNode trail name (.link target)).1

/-- Makes a path lead to a place, given by its canonical path. -/
def leadTo (s : Storage) (path place : String) : Storage :=
  let s := (s.makeParent path).1
  if (s.canonicalPath path).toOption = some place then s else s.putLink path place

/-- Takes a name out of its directory. -/
def remove (s : Storage) (path : String) : Storage :=
  let names := Path.names path
  match follow s.nodes linkLimit (s.startOf path) names.dropLast, names.getLast? with
  | .ok trail, some name => s.editEntries (nodeId trail) (·.filter (·.1 ≠ name))
  | _, _ => s

/-- Cuts a file or makes it longer. -/
def truncate (s : Storage) (path : String) (size : Nat) : Storage :=
  s.editNode path fun
    | .file image => .file (image.resize size)
    | node => node

/-- Makes a block device of the file at a path, now and whenever there is one. -/
def attachBlock (s : Storage) (path : String) (device : BlockDevice) : Storage :=
  { s with blocks := (s.absolutePath path, device) :: s.blocks }

/-- Adds a fault, after those that are there. -/
def addFault (s : Storage) (path : String) (site : FaultSite) (effect : FaultEffect) : Storage :=
  { s with faults := s.faults ++ [⟨s.absolutePath path, site, effect⟩] }

/-- Takes all faults away. -/
def clearFaults (s : Storage) : Storage := { s with faults := [] }

/-- The bytes of the file at a path. -/
def image? (s : Storage) (path : String) : Option Image :=
  match s.resolve path with
  | .ok trail =>
    match s.nodes[nodeId trail]? with
    | some (.file image) => some image
    | _ => none
  | .error _ => none

end ZonedSet.Storage
