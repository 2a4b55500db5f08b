/-
ZonedSet.Yaml.Lexer — from characters to tokens.

A key needs no mark of its own: it is known as one when the colon after it comes. The lexer
therefore remembers where a key may have begun (`PendingKey`), and puts a key token there, and the
start of the mapping before it, once it sees the colon. Such a key has to lie on one line and to
be no longer than 1024 characters.

In block style a mapping is over when a line is indented by less than its keys. The lexer knows
one level of indentation and one of flow style, and gives up (`none`) where a second would begin.
-/
import ZonedSet.Yaml.Scalar
import ZonedSet.Yaml.Tag

namespace ZonedSet.Yaml

/-- A place where a key may have begun. -/
structure PendingKey where
  /-- The number of tokens before it. -/
  position : Nat
  line : Nat
  column : Nat
  /-- Nothing but a key can stand there. -/
  required : Bool

/-- The lexer between two tokens. -/
structure Lexer where
  cursor : Cursor
  tokens : Array Token
  /-- The column of the keys of the block mapping that is open. -/
  indent : Option Nat
  /-- Is a flow mapping open? -/
  inFlow : Bool
  /-- May a key begin here? -/
  keyAllowed : Bool
  blockKey : Option PendingKey
  flowKey : Option PendingKey

namespace Lexer

/-- The lexer at the start of a text. -/
def start (text : List Char) : Lexer := ⟨⟨text, 0, 0⟩, #[], none, false, true, none, none⟩

/-! ## Small steps -/

def emit (l : Lexer) (t : Token) : Lexer := { l with tokens := l.tokens.push t }

def moveTo (l : Lexer) (c : Cursor) : Lexer := { l with cursor := c }

def allowKey (l : Lexer) (allowed : Bool) : Lexer := { l with keyAllowed := allowed }

/-- The place where a key may have begun, in the mapping that is open. -/
def pending (l : Lexer) : Option PendingKey := if l.inFlow then l.flowKey else l.blockKey

def setPending (l : Lexer) (k : Option PendingKey) : Lexer :=
  if l.inFlow then { l with flowKey := k } else { l with blockKey := k }

/-- Forgets the place where a key may have begun; refused if nothing but a key can stand there. -/
def dropPending (l : Lexer) : Option Lexer :=
  if l.pending.any (·.required) then none else some (l.setPending none)

/-- Remembers this place as one where a key may begin. -/
def notePending (l : Lexer) : Option Lexer :=
  if l.keyAllowed then
    l.dropPending.map fun m =>
      m.setPending (some
        ⟨l.tokens.size, l.cursor.line, l.cursor.column,
          !l.inFlow && l.indent == some l.cursor.column⟩)
  else some l

/-- Forgets a key that went on to another line, or for too long. -/
def expire (c : Cursor) : Option PendingKey → Option (Option PendingKey)
  | none => some none
  | some k =>
    if k.line < c.line || k.column + 1024 < c.column then
      if k.required then none else some none
    else some (some k)

/-- Ends the block mapping if the column is left of its keys. -/
def dedent (l : Lexer) (column : Nat) : Lexer :=
  match l.indent with
  | some i => if !l.inFlow && column < i then { l with indent := none }.emit .blockEnd else l
  | none => l

/-- Ends the block mapping. -/
def dedentAll (l : Lexer) : Lexer :=
  if l.indent.isSome && !l.inFlow then { l with indent := none }.emit .blockEnd else l

/-- Begins a block mapping with keys in this column, if none is open; refused if one is open
further left. -/
def openMapping (l : Lexer) (column position : Nat) : Option Lexer :=
  if l.inFlow then some l
  else
    match l.indent with
    | none =>
      some { l with
        indent := some column
        tokens := l.tokens.insertIdxIfInBounds position .blockMappingStart }
    | some i => if i < column then none else some l

/-! ## Between tokens -/

/-- The place of the next token, after white space, comments and line breaks, and whether a key
may begin there. Tabs count as white space only where no key may begin. -/
def skipGap (inFlow keyAllowed inComment : Bool) (line column : Nat) :
    List Char → Cursor × Bool
  | [] => (⟨[], line, column⟩, keyAllowed)
  | c :: rest =>
    if isBreak c then skipGap inFlow (keyAllowed || !inFlow) false (line + 1) 0 rest
    else if inComment || c == '#' then skipGap inFlow keyAllowed true line (column + 1) rest
    else if c == ' ' || (c == '\t' && (inFlow || !keyAllowed)) ||
        (c == '\uFEFF' && column == 0) then
      skipGap inFlow keyAllowed false line (column + 1) rest
    else (⟨c :: rest, line, column⟩, keyAllowed)

/-- The lexer at the next token. -/
def toToken (l : Lexer) : Option Lexer := do
  let (c, allowed) :=
    skipGap l.inFlow l.keyAllowed false l.cursor.line l.cursor.column l.cursor.rest
  let blockKey ← expire c l.blockKey
  let flowKey ← expire c l.flowKey
  return { l with cursor := c, keyAllowed := allowed, blockKey, flowKey }.dedent c.column

/-! ## Tokens -/

/-- The end of the text. -/
def lexEnd (l : Lexer) : Option (Array Token) := l.dedentAll.dropPending.map (·.tokens)

/-- A token that stands on its own at the start of a line. -/
def lexAlone (l : Lexer) (t : Token) (after : Cursor) : Option Lexer :=
  l.dedentAll.dropPending.map fun m => ((m.allowKey false).emit t).moveTo after

def lexFlowStart (l : Lexer) : Option Lexer :=
  if l.inFlow then none
  else
    l.notePending.map fun m =>
      (({ m with inFlow := true, flowKey := none }.allowKey true).emit .flowMappingStart).moveTo
        (l.cursor.skip 1)

def lexFlowEnd (l : Lexer) : Option Lexer :=
  if l.inFlow then
    l.dropPending.map fun m =>
      (({ m with inFlow := false }.allowKey false).emit .flowMappingEnd).moveTo (l.cursor.skip 1)
  else none

def lexFlowEntry (l : Lexer) : Option Lexer :=
  if l.inFlow then
    l.dropPending.map fun m => ((m.allowKey true).emit .flowEntry).moveTo (l.cursor.skip 1)
  else none

/-- A question mark before a key. -/
def lexKey (l : Lexer) : Option Lexer := do
  let m ←
    if l.inFlow then some l
    else if l.keyAllowed then l.openMapping l.cursor.column l.tokens.size
    else none
  let m ← m.dropPending
  return ((m.allowKey !l.inFlow).emit .key).moveTo (l.cursor.skip 1)

/-- A colon after a key. -/
def lexValue (l : Lexer) : Option Lexer := do
  let m ←
    match l.pending with
    | some k => do
      let m := { l with tokens := l.tokens.insertIdxIfInBounds k.position .key }
      let m ← m.openMapping k.column k.position
      pure ((m.setPending none).allowKey false)
    | none =>
      if l.inFlow then some (l.allowKey false)
      else if l.keyAllowed then
        (l.openMapping l.cursor.column l.tokens.size).map (·.allowKey true)
      else none
  return (m.emit .value).moveTo (l.cursor.skip 1)

def lexAlias (l : Lexer) : Option Lexer := do
  let m ← l.notePending
  let (name, c) ← readName (l.cursor.skip 1)
  return ((m.allowKey false).emit (.alias name)).moveTo c

def lexAnchor (l : Lexer) : Option Lexer := do
  let m ← l.notePending
  let (name, c) ← readName (l.cursor.skip 1)
  return ((m.allowKey false).emit (.anchor name)).moveTo c

def lexTag (l : Lexer) : Option Lexer := do
  let m ← l.notePending
  let (handle, rest, c) ← readTag l.cursor
  if tagEnds l.inFlow c then
    return ((m.allowKey false).emit (.tag handle rest)).moveTo c
  else none

def lexBlock (l : Lexer) (style : Style) : Option Lexer := do
  let m ← l.dropPending
  let (text, c) ← readBlock (style == .literal) l.indent (l.cursor.skip 1)
  return ((m.allowKey true).emit (.scalar text style)).moveTo c

def lexQuoted (l : Lexer) (style : Style) : Option Lexer := do
  let m ← l.notePending
  let c := l.cursor.skip 1
  let (text, c) ← readQuoted (style == .singleQuoted) .normal [] .none c.line c.column c.rest
  return ((m.allowKey false).emit (.scalar text style)).moveTo c

/-- A plain scalar. After its last line a key may begin. -/
def lexPlain (l : Lexer) : Option Lexer := do
  let m ← l.notePending
  let indent := match l.indent with
    | some i => i + 1
    | none => 0
  let r ← readPlain l.inFlow indent [] .none l.cursor.line l.cursor.column l.cursor.rest
  return ((m.allowKey r.broken).emit (.scalar r.text.reverse .plain)).moveTo r.cursor

/-- The characters that no plain scalar begins with, white space apart. -/
def indicators : List Char := "-?:,[]{}#&*!|>'\"%@".toList ++ ['\x60']

/-- Does a plain scalar begin here? A hyphen, and in block style a question mark or a colon, may
begin one if something stands right after it. -/
def startsPlain (inFlow : Bool) (c : Char) (rest : List Char) : Bool :=
  (!isGap c && !indicators.contains c) ||
    (c == '-' && !rest.head?.any isBlank) ||
    (!inFlow && (c == '?' || c == ':') && !atGap rest)

/-- The next token, at a character. -/
def lexAt (l : Lexer) (c : Char) (rest : List Char) : Option Lexer :=
  let lineStart := l.cursor.column == 0
  if lineStart && c == '%' then do
    let (t, after) ← readDirective (l.cursor.skip 1)
    l.lexAlone t after
  else if lineStart && atMarker (c :: rest) then
    l.lexAlone (if c == '-' then .documentStart else .documentEnd) (l.cursor.skip 3)
  else if c == '[' || c == ']' then none
  else if c == '{' then l.lexFlowStart
  else if c == '}' then l.lexFlowEnd
  else if c == ',' then l.lexFlowEntry
  else if c == '-' && atGap rest then none
  else if c == '?' && (l.inFlow || atGap rest) then l.lexKey
  else if c == ':' && (l.inFlow || atGap rest) then l.lexValue
  else if c == '*' then l.lexAlias
  else if c == '&' then l.lexAnchor
  else if c == '!' then l.lexTag
  else if c == '|' && !l.inFlow then l.lexBlock .literal
  else if c == '>' && !l.inFlow then l.lexBlock .folded
  else if c == '\'' then l.lexQuoted .singleQuoted
  else if c == '"' then l.lexQuoted .doubleQuoted
  else if startsPlain l.inFlow c rest then l.lexPlain
  else none

/-- Reads tokens to the end of the text. Every token takes a character, so the number of
characters is fuel enough. -/
def run : (fuel : Nat) → Lexer → Option (Array Token)
  | 0, _ => none
  | fuel + 1, l =>
    match l.toToken with
    | none => none
    | some l =>
      match l.cursor.rest with
      | [] => l.lexEnd
      | c :: rest =>
        match l.lexAt c rest with
        | none => none
        | some l => run fuel l

end Lexer

/-- The tokens of a text. -/
def tokens? (text : List Char) : Option (List Token) :=
  if text.all isAllowed then
    ((Lexer.start (unifyBreaks text)).run (text.length + 2)).map Array.toList
  else none

end ZonedSet.Yaml
