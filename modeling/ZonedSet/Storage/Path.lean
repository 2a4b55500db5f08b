/-
ZonedSet.Storage.Path — paths as text.

A path is kept as it was written, because messages show it that way. Its names are the parts
between slashes.
-/

namespace ZonedSet.Path

/-- Does the path start at the root? -/
def isAbsolute (path : String) : Bool := path.toList.head? == some '/'

/-- Does the path end with a slash? -/
def isSlashed (path : String) : Bool := path.toList.getLast? == some '/'

/-- One path below another. An absolute path takes the place of the first one. -/
def join (base path : String) : String :=
  if isAbsolute path || base.isEmpty then path
  else if isSlashed base then base ++ path
  else base ++ "/" ++ path

/-- The stretches of a text between slashes, empty ones included. -/
def stretches : List Char → List (List Char)
  | [] => [[]]
  | c :: rest =>
    match stretches rest with
    | [] => [[c]]
    | s :: more => if c = '/' then [] :: s :: more else (c :: s) :: more

/-- The names in a path. -/
def parts (path : String) : List String :=
  ((stretches path.toList).filter (· ≠ [])).map String.ofList

/-- The names to go through, one after the other. A slash at the end asks for a directory, as one
more dot does. -/
def names (path : String) : List String :=
  if isSlashed path && !(parts path).isEmpty then parts path ++ ["."] else parts path

/-- The absolute path that goes through these names. -/
def ofNames (names : List String) : String := "/" ++ "/".intercalate names

/-- The last name of an absolute path; the root has none and stands for itself. -/
def baseName (path : String) : String := (parts path).getLastD path

end ZonedSet.Path
