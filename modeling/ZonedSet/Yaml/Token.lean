/-
ZonedSet.Yaml.Token — the tokens of a YAML document that holds one flat mapping.

A configuration is a YAML document that is empty or maps scalars to scalars. Sequences and nested
mappings have no place in it, so they have no tokens: the lexer gives up where one begins. All the
notations for a flat mapping are there: block and flow style, plain, quoted and block scalars,
anchors and aliases, tags, directives and comments.
-/

namespace ZonedSet.Yaml

/-! ## Tokens -/

/-- How a scalar is written. -/
inductive Style where
  | plain
  | singleQuoted
  | doubleQuoted
  | literal
  | folded
  deriving DecidableEq, Repr, Inhabited

/-- A token. Names and handles are kept as characters, the rest of a tag as the bytes that it
stands for. -/
inductive Token where
  | versionDirective (major minor : Nat)
  | tagDirective (handle : List Char) (lead : List UInt8)
  | documentStart
  | documentEnd
  | blockMappingStart
  | blockEnd
  | flowMappingStart
  | flowMappingEnd
  | flowEntry
  | key
  | value
  | alias (name : List Char)
  | anchor (name : List Char)
  | tag (handle : List Char) (rest : List UInt8)
  | scalar (text : List Char) (style : Style)
  deriving DecidableEq, Repr, Inhabited

/-! ## Characters -/

/-- May the character stand in a document? Controls other than tab and line breaks may not. -/
def isAllowed (c : Char) : Bool :=
  let n := c.toNat
  n == 0x09 || n == 0x0A || n == 0x0D || (0x20 ≤ n && n ≤ 0x7E) || n == 0x85 ||
    (0xA0 ≤ n && n ≤ 0xD7FF) || (0xE000 ≤ n && n ≤ 0xFFFD) || 0x10000 ≤ n

/-- Spaces and tabs. -/
def isBlank (c : Char) : Bool := c == ' ' || c == '\t'

/-- Line breaks, once the two-character one and its parts have become line feeds. -/
def isBreak (c : Char) : Bool := c == '\n' || c == '\u2028' || c == '\u2029'

/-- Blanks and line breaks. -/
def isGap (c : Char) : Bool := isBlank c || isBreak c

/-- Does the text go on with a blank or a line break, or end? -/
def atGap : List Char → Bool
  | [] => true
  | c :: _ => isGap c

/-- Does the text go on with a line break, or end? -/
def atBreak : List Char → Bool
  | [] => true
  | c :: _ => isBreak c

/-- The characters of names: ASCII letters and digits, hyphen and underscore. -/
def isWordChar (c : Char) : Bool := c.isAlphanum || c == '-' || c == '_'

/-- The value of a hexadecimal digit. -/
def hexDigit? (c : Char) : Option Nat :=
  if '0' ≤ c ∧ c ≤ '9' then some (c.toNat - '0'.toNat)
  else if 'a' ≤ c ∧ c ≤ 'f' then some (c.toNat - 'a'.toNat + 10)
  else if 'A' ≤ c ∧ c ≤ 'F' then some (c.toNat - 'A'.toNat + 10)
  else none

/-- Does the text begin with a document marker, at the start of a line? -/
def atMarker : List Char → Bool
  | '-' :: '-' :: '-' :: rest => atGap rest
  | '.' :: '.' :: '.' :: rest => atGap rest
  | _ => false

/-- Carriage returns and next-line controls as line feeds; the two-character break as one. -/
def unifyBreaks : List Char → List Char
  | [] => []
  | '\r' :: '\n' :: rest => '\n' :: unifyBreaks rest
  | c :: rest => (if c == '\r' || c == '\u0085' then '\n' else c) :: unifyBreaks rest

/-! ## Positions -/

/-- A place in a text: what is left of it, and the line and column reached. -/
structure Cursor where
  rest : List Char
  line : Nat
  column : Nat
  deriving DecidableEq, Repr, Inhabited

namespace Cursor

/-- The place after some characters of the same line. -/
def skip (c : Cursor) (count : Nat) : Cursor := ⟨c.rest.drop count, c.line, c.column + count⟩

/-- The place after the characters that satisfy a test, none of them a break. -/
def skipWhile (c : Cursor) (p : Char → Bool) : Cursor :=
  ⟨c.rest.dropWhile p, c.line, c.column + (c.rest.takeWhile p).length⟩

/-- The place after a break, if the text goes on with one. -/
def skipBreak (c : Cursor) : Cursor :=
  match c.rest with
  | b :: rest => if isBreak b then ⟨rest, c.line + 1, 0⟩ else c
  | [] => c

/-- The place after the blanks and the comment that may end a line; `none` if anything else
stands there. -/
def endLine? (c : Cursor) : Option Cursor :=
  let c := c.skipWhile isBlank
  let c := if c.rest.head? == some '#' then c.skipWhile (fun x => !isBreak x) else c
  if atBreak c.rest then some c.skipBreak else none

end Cursor

end ZonedSet.Yaml
