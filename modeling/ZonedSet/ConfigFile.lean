/-
ZonedSet.ConfigFile — configurations in YAML.

Every field may be left out, and then keeps its default. A path may be any scalar, and its text
counts as it is written: `~` and `123` are paths. The switch takes the six plain spellings of
the truth values only, or a literal block scalar that is tagged as a truth value. A field that is
given twice, or is not known, makes the configuration invalid.
-/
import ZonedSet.Options
import ZonedSet.Error
import ZonedSet.Storage.Basic
import ZonedSet.Yaml.Document

namespace ZonedSet.Config

/-! ## Fields -/

/-- The tag of truth values. -/
def boolTag : List UInt8 :=
  "tag:yaml.org,2002:bool".toList.map fun c => c.toNat.toUInt8

/-- The truth value that a scalar stands for. -/
def bool? (v : Yaml.Scalar) : Option Bool :=
  if v.style = .plain ∨ (v.style = .literal ∧ v.tag = some boolTag) then
    let word := String.ofList v.text
    if word = "true" ∨ word = "True" ∨ word = "TRUE" then some true
    else if word = "false" ∨ word = "False" ∨ word = "FALSE" then some false
    else none
  else none

/-- Sets a field by name. -/
def set? (c : Config) (field : String) (v : Yaml.Scalar) : Option Config :=
  if field = "sysfs_root" then some { c with sysfsRoot := String.ofList v.text }
  else if field = "mount_table" then some { c with mountTable := String.ofList v.text }
  else if field = "allow_files" then (bool? v).map fun b => { c with allowFiles := b }
  else none

/-- Sets fields one after the other; none may come twice. -/
def setAll? (c : Config) (seen : List String) : List (Yaml.Scalar × Yaml.Scalar) → Option Config
  | [] => some c
  | (k, v) :: rest =>
    let field := String.ofList k.text
    if seen.contains field then none
    else
      match c.set? field v with
      | some c => setAll? c (field :: seen) rest
      | none => none

/-! ## Files -/

/-- The configuration that a text describes. -/
def parse? (text : List Char) : Option Config :=
  match Yaml.parse? text with
  | none => none
  | some .empty => some .default
  | some (.mapping entries) => setAll? .default [] entries

/-- The configuration that a text describes; the path is for the error. -/
def ofText (path : String) (text : List Char) : Except Error Config :=
  match parse? text with
  | some c => .ok c
  | none => .error (.invalidConfig path)

/-- Reads the configuration in a file. -/
def load (s : Storage) (path : String) : Except Error Config :=
  match s.readText path with
  | .error e => .error (.os path "read configuration" e)
  | .ok text => ofText path text

end ZonedSet.Config
