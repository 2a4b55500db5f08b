/-
ZonedSet.Yaml.Tag — reading anchors, tags and directives.
-/
import ZonedSet.Yaml.Token
import ZonedSet.LittleEndian

namespace ZonedSet.Yaml

/-! ## Anchors and aliases -/

/-- Reads the name of an anchor or an alias, and sees that it ends there. -/
def readName (c : Cursor) : Option (List Char × Cursor) :=
  let name := c.rest.takeWhile isWordChar
  let after := c.skipWhile isWordChar
  let ends := match after.rest with
    | [] => true
    | x :: _ => isGap x || ['?', ':', ',', ']', '}', '%', '@', '\x60'].contains x
  if name.isEmpty || !ends then none else some (name, after)

/-! ## Resource names -/

/-- The characters of a resource name; some only between angle brackets. -/
def isUriChar (bracketed : Bool) (c : Char) : Bool :=
  isWordChar c || ";/?:@&=+$.!~*'()".toList.contains c ||
    (bracketed && (c == ',' || c == '[' || c == ']'))

/-- How many bytes follow the first byte of a character. -/
def followers? (b : Nat) : Option Nat :=
  if b < 0x80 then some 0
  else if b / 32 = 6 then some 1
  else if b / 16 = 14 then some 2
  else if b / 8 = 30 then some 3
  else none

/-- What a resource name is in the middle of. -/
inductive UriMode where
  /-- So many bytes of a character have yet to come, each as a percent sign and two digits. -/
  | bytes (due : Nat)
  /-- After a percent sign. -/
  | high (due : Option Nat)
  /-- After a percent sign and a digit. -/
  | low (due : Option Nat) (digit : Nat)

/-- Reads a resource name as far as it goes; the bytes read are in reverse. `due` is `none` at the
first byte of a character. -/
def readUri (bracketed : Bool) (mode : UriMode) (bytes : List UInt8) (line column : Nat) :
    List Char → Option (List UInt8 × Cursor)
  | [] =>
    match mode with
    | .bytes 0 => some (bytes.reverse, ⟨[], line, column⟩)
    | _ => none
  | c :: rest =>
    match mode with
    | .bytes due =>
      if c == '%' then
        readUri bracketed (.high (if due = 0 then none else some due)) bytes line (column + 1) rest
      else if 0 < due then none
      else if isUriChar bracketed c then
        readUri bracketed (.bytes 0) (c.toNat.toUInt8 :: bytes) line (column + 1) rest
      else some (bytes.reverse, ⟨c :: rest, line, column⟩)
    | .high due =>
      match hexDigit? c with
      | some d => readUri bracketed (.low due d) bytes line (column + 1) rest
      | none => none
    | .low due high =>
      match hexDigit? c with
      | none => none
      | some d =>
        let b := high * 16 + d
        match due with
        | none =>
          match followers? b with
          | some n => readUri bracketed (.bytes n) (b.toUInt8 :: bytes) line (column + 1) rest
          | none => none
        | some n =>
          if b / 64 = 2 then
            readUri bracketed (.bytes (n - 1)) (b.toUInt8 :: bytes) line (column + 1) rest
          else none

/-- Reads a resource name at a place. -/
def readUriAt (bracketed : Bool) (c : Cursor) : Option (List UInt8 × Cursor) :=
  readUri bracketed (.bytes 0) [] c.line c.column c.rest

/-! ## Tags -/

/-- What counts of a resource name: a zero byte ends it. -/
def uriText (bytes : List UInt8) : List UInt8 := bytes.takeWhile (· ≠ 0)

/-- Reads an exclamation mark, word characters, and a second exclamation mark if there is one.
Tells whether there was one. -/
def readHandle (c : Cursor) : Option (List Char × Bool × Cursor) :=
  match c.rest with
  | '!' :: rest =>
    let word := rest.takeWhile isWordChar
    let after := (c.skip 1).skipWhile isWordChar
    if after.rest.head? == some '!' then some ('!' :: (word ++ ['!']), true, after.skip 1)
    else some ('!' :: word, false, after)
  | _ => none

/-- Reads a tag: its handle, and the rest of it. A tag between angle brackets has an empty
handle; so has the lone exclamation mark. There has to be something to read even where a zero byte
comes first and nothing counts. -/
def readTag (c : Cursor) : Option (List Char × List UInt8 × Cursor) :=
  match c.rest with
  | '!' :: '<' :: _ => do
    let (bytes, after) ← readUriAt true (c.skip 2)
    if bytes.isEmpty || after.rest.head? != some '>' then none
    else some ([], uriText bytes, after.skip 1)
  | _ => do
    let (handle, closed, after) ← readHandle c
    if closed then
      let (bytes, after) ← readUriAt false after
      if bytes.isEmpty then none else some (handle, uriText bytes, after)
    else
      let (bytes, after) ← readUriAt false after
      let bytes := uriText (handle.tail.map (fun x => x.toNat.toUInt8) ++ bytes)
      if bytes.isEmpty then some ([], ['!'.toNat.toUInt8], after)
      else some (['!'], bytes, after)

/-- Does a tag end here? -/
def tagEnds (inFlow : Bool) (c : Cursor) : Bool :=
  atGap c.rest || (inFlow && c.rest.head? == some ',')

/-! ## Directives -/

/-- Reads one to nine digits. -/
def readVersionPart (c : Cursor) : Option (Nat × Cursor) :=
  let digits := c.rest.takeWhile Char.isDigit
  if digits.isEmpty || 9 < digits.length then none
  else some (digits.foldl (fun n d => n * 10 + (d.toNat - '0'.toNat)) 0, c.skipWhile Char.isDigit)

/-- Reads a directive, from after its percent sign to the start of the next line. -/
def readDirective (c : Cursor) : Option (Token × Cursor) := do
  let name := c.rest.takeWhile isWordChar
  let c := c.skipWhile isWordChar
  if !atGap c.rest then none
  let c := c.skipWhile isBlank
  if name = "YAML".toList then
    let (major, c) ← readVersionPart c
    if c.rest.head? != some '.' then none
    let (minor, c) ← readVersionPart (c.skip 1)
    return (.versionDirective major minor, ← c.endLine?)
  else if name = "TAG".toList then
    let (handle, closed, c) ← readHandle c
    if !closed && handle != ['!'] then none
    if !c.rest.head?.any isBlank then none
    let (lead, c) ← readUriAt true (c.skipWhile isBlank)
    if lead.isEmpty || !atGap c.rest then none
    return (.tagDirective handle (uriText lead), ← c.endLine?)
  else none

end ZonedSet.Yaml
