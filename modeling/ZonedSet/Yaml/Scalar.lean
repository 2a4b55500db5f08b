/-
ZonedSet.Yaml.Scalar — reading one scalar.

Inside a scalar that is not a block, white space between two characters is kept when it lies on one
line, and folded when it has line breaks in it: a single break becomes a space, of several the
first is dropped. What stands between the last character and the next is therefore held back as a
`Gap` until it is known that a next one comes.
-/
import ZonedSet.Yaml.Token

namespace ZonedSet.Yaml

/-! ## White space held back -/

/-- White space since the last character of the scalar. -/
inductive Gap where
  /-- Blanks on one line, or nothing. -/
  | blanks (chars : List Char)
  /-- Line breaks: the first, unless it was escaped, and those after it. -/
  | breaks (first : Option Char) (more : List Char)

namespace Gap

/-- No white space. -/
def none : Gap := .blanks []

/-- Has there been a line break? -/
def isBroken : Gap → Bool
  | .blanks _ => false
  | .breaks _ _ => true

/-- One more blank. After a line break it is indentation and counts for nothing. -/
def addBlank (c : Char) : Gap → Gap
  | .blanks chars => .blanks (chars ++ [c])
  | broken => broken

/-- One more line break. -/
def addBreak (c : Char) : Gap → Gap
  | .blanks _ => .breaks (some c) []
  | .breaks first more => .breaks first (more ++ [c])

/-- The text that the white space stands for. -/
def text : Gap → List Char
  | .blanks chars => chars
  | .breaks (some '\n') [] => [' ']
  | .breaks (some '\n') more => more
  | .breaks first more => first.toList ++ more

end Gap

/-! ## Plain scalars -/

/-- A plain scalar as read so far; the text is in reverse. -/
structure PlainResult where
  text : List Char
  cursor : Cursor
  /-- Did line breaks come after the last character? -/
  broken : Bool

/-- The characters that end a plain scalar in flow style. -/
def isFlowIndicator (c : Char) : Bool :=
  c == ',' || c == '[' || c == ']' || c == '{' || c == '}'

/-- Reads a plain scalar. Its lines after the first are indented by `indent` at least, in block
style. A colon before white space ends it, so do a comment and a document marker, and in flow style
the indicators; there a colon right before an indicator is refused. -/
def readPlain (inFlow : Bool) (indent : Nat) (text : List Char) (gap : Gap) (line column : Nat) :
    List Char → Option PlainResult
  | [] => some ⟨text, ⟨[], line, column⟩, gap.isBroken⟩
  | c :: rest =>
    if isBreak c then readPlain inFlow indent text (gap.addBreak c) (line + 1) 0 rest
    else if isBlank c then
      if gap.isBroken && column < indent && c == '\t' then none
      else readPlain inFlow indent text (gap.addBlank c) line (column + 1) rest
    else
      let stop := some ⟨text, ⟨c :: rest, line, column⟩, gap.isBroken⟩
      let afterGap := match gap with
        | .blanks [] => false
        | _ => true
      if afterGap && !inFlow && column < indent then stop
      else if afterGap && column == 0 && atMarker (c :: rest) then stop
      else if afterGap && c == '#' then stop
      else if inFlow && c == ':' && rest.head?.any (fun n => isFlowIndicator n || n == '?') then
        none
      else if (c == ':' && atGap rest) || (inFlow && isFlowIndicator c) then stop
      else readPlain inFlow indent (c :: (gap.text.reverse ++ text)) .none line (column + 1) rest

/-! ## Quoted scalars -/

/-- What a quoted scalar is in the middle of. -/
inductive QuotedMode where
  | normal
  /-- The second of two single quotes comes. -/
  | quote
  /-- The character after a backslash comes. -/
  | escape
  /-- So many hexadecimal digits come, after those that make this number. -/
  | code (digits value : Nat)

/-- The character that a backslash and a letter stand for. -/
def escapeChar? (c : Char) : Option Char :=
  if c == '0' then some '\x00'
  else if c == 'a' then some '\x07'
  else if c == 'b' then some '\x08'
  else if c == 't' || c == '\t' then some '\t'
  else if c == 'n' then some '\n'
  else if c == 'v' then some '\x0b'
  else if c == 'f' then some '\x0c'
  else if c == 'r' then some '\r'
  else if c == 'e' then some '\x1b'
  else if c == ' ' || c == '"' || c == '/' || c == '\\' then some c
  else if c == 'N' then some '\u0085'
  else if c == '_' then some '\u00a0'
  else if c == 'L' then some '\u2028'
  else if c == 'P' then some '\u2029'
  else none

/-- How many hexadecimal digits come after a backslash and this letter. -/
def codeDigits? (c : Char) : Option Nat :=
  if c == 'x' then some 2 else if c == 'u' then some 4 else if c == 'U' then some 8 else none

/-- The character with this number, unless it is a surrogate or too large. -/
def charOfCode? (n : Nat) : Option Char :=
  if (0xD800 ≤ n ∧ n ≤ 0xDFFF) ∨ 0x10FFFF < n then none else some (Char.ofNat n)

/-- Reads a quoted scalar from after its first quote to after its last one. -/
def readQuoted (single : Bool) (mode : QuotedMode) (text : List Char) (gap : Gap)
    (line column : Nat) : List Char → Option (List Char × Cursor)
  | [] => none
  | c :: rest =>
    match mode with
    | .quote => readQuoted single .normal ('\'' :: text) .none line (column + 1) rest
    | .escape =>
      if isBreak c then readQuoted single .normal text (.breaks Option.none []) (line + 1) 0 rest
      else
        match escapeChar? c with
        | some e => readQuoted single .normal (e :: text) .none line (column + 1) rest
        | Option.none =>
          match codeDigits? c with
          | some n => readQuoted single (.code n 0) text .none line (column + 1) rest
          | Option.none => Option.none
    | .code digits value =>
      match hexDigit? c with
      | Option.none => Option.none
      | some d =>
        let value := value * 16 + d
        if digits ≤ 1 then
          match charOfCode? value with
          | some e => readQuoted single .normal (e :: text) .none line (column + 1) rest
          | Option.none => Option.none
        else readQuoted single (.code (digits - 1) value) text .none line (column + 1) rest
    | .normal =>
      if isBreak c then readQuoted single .normal text (gap.addBreak c) (line + 1) 0 rest
      else if isBlank c then
        readQuoted single .normal text (gap.addBlank c) line (column + 1) rest
      else if column == 0 && atMarker (c :: rest) then Option.none
      else
        let text := gap.text.reverse ++ text
        if single then
          if c == '\'' then
            if rest.head? == some '\'' then
              readQuoted single .quote text .none line (column + 1) rest
            else some (text.reverse, ⟨rest, line, column + 1⟩)
          else readQuoted single .normal (c :: text) .none line (column + 1) rest
        else if c == '"' then some (text.reverse, ⟨rest, line, column + 1⟩)
        else if c == '\\' then readQuoted single .escape text .none line (column + 1) rest
        else readQuoted single .normal (c :: text) .none line (column + 1) rest

/-! ## Block scalars -/

/-- What becomes of the line breaks at the end of a block scalar. -/
inductive Chomping where
  | strip
  | clip
  | keep
  deriving DecidableEq, Repr, Inhabited

/-- The header of a block scalar, after its first character: the chomping, and the indentation
relative to the parent's where it is given. -/
def readBlockHeader (c : Cursor) : Option (Chomping × Option Nat × Cursor) :=
  let chomping? (x : Char) : Option Chomping :=
    if x == '+' then some .keep else if x == '-' then some .strip else none
  let digit? (x : Char) : Option Nat :=
    if '0' ≤ x ∧ x ≤ '9' then some (x.toNat - '0'.toNat) else none
  match c.rest with
  | [] => some (.clip, none, c)
  | x :: rest =>
    match chomping? x, digit? x with
    | some chomping, _ =>
      match rest.head?.bind digit? with
      | some 0 => none
      | some n => some (chomping, some n, c.skip 2)
      | none => some (chomping, none, c.skip 1)
    | none, some 0 => none
    | none, some n =>
      match rest.head?.bind chomping? with
      | some chomping => some (chomping, some n, c.skip 2)
      | none => some (.clip, some n, c.skip 1)
    | none, none => some (.clip, none, c)

/-- The empty lines before a block scalar whose indentation is to be found: their breaks, the
largest column reached, and the place of the first character that is neither space nor break. A
tab there is refused. -/
def readBlockLead (breaks : List Char) (widest line column : Nat) :
    List Char → Option (List Char × Nat × Cursor)
  | [] => some (breaks, max widest column, ⟨[], line, column⟩)
  | c :: rest =>
    if c == ' ' then readBlockLead breaks widest line (column + 1) rest
    else if c == '\t' then none
    else if isBreak c then
      readBlockLead (breaks ++ [c]) (max widest column) (line + 1) 0 rest
    else some (breaks, max widest column, ⟨c :: rest, line, column⟩)

/-- A block scalar as read so far. -/
structure BlockState where
  /-- In reverse. -/
  text : List Char
  /-- The break that ended the last line with text. -/
  ended : Option Char
  /-- The breaks of the empty lines after it. -/
  empty : List Char
  /-- Did the last line with text begin with a blank? -/
  leadingBlank : Bool
  /-- Are we within a line? -/
  inLine : Bool

/-- The text with the line breaks that come before a new line with text, which begins with a blank
or not. Folding turns a single break between two lines that do not begin with blanks into a space,
and drops the first of several. -/
def BlockState.startLine (b : BlockState) (literal blank : Bool) : List Char :=
  let joined :=
    if !literal && b.ended == some '\n' && !b.leadingBlank && !blank then
      if b.empty.isEmpty then [' '] else []
    else b.ended.toList
  (joined ++ b.empty).reverse ++ b.text

/-- The whole text, once the scalar is over. -/
def BlockState.finish (b : BlockState) (chomping : Chomping) : List Char :=
  b.text.reverse ++
    match chomping with
    | .strip => []
    | .clip => b.ended.toList
    | .keep => b.ended.toList ++ b.empty

/-- Reads the lines of a block scalar. It ends where a line is indented by less than `indent`. -/
def readBlockLines (literal : Bool) (indent : Nat) (b : BlockState) (line column : Nat) :
    List Char → Option (BlockState × Cursor)
  | [] => some (b, ⟨[], line, column⟩)
  | c :: rest =>
    if b.inLine then
      if isBreak c then
        readBlockLines literal indent { b with ended := some c, inLine := false } (line + 1) 0 rest
      else
        readBlockLines literal indent { b with text := c :: b.text } line (column + 1) rest
    else if column < indent && c == ' ' then
      readBlockLines literal indent b line (column + 1) rest
    else if column < indent && c == '\t' then none
    else if isBreak c then
      readBlockLines literal indent { b with empty := b.empty ++ [c] } (line + 1) 0 rest
    else if column == indent then
      readBlockLines literal indent
        ⟨c :: b.startLine literal (isBlank c), none, [], isBlank c, true⟩ line (column + 1) rest
    else some (b, ⟨c :: rest, line, column⟩)

/-- Reads a block scalar, from after its first character. `parent` is the indentation of the
mapping around it, if there is one. -/
def readBlock (literal : Bool) (parent : Option Nat) (c : Cursor) :
    Option (List Char × Cursor) := do
  let (chomping, given, c) ← readBlockHeader c
  let c ← c.endLine?
  let (empty, indent, c) ← match given with
    | some n => some ([], parent.getD 0 + n, c)
    | none =>
      match readBlockLead [] 0 c.line c.column c.rest with
      | none => none
      | some (breaks, widest, c) =>
        let least := match parent with
          | some p => p + 1
          | none => 1
        some (breaks, max widest least, c)
  let (b, c) ← readBlockLines literal indent ⟨[], none, empty, false, false⟩ c.line c.column c.rest
  return (b.finish chomping, c)

end ZonedSet.Yaml
