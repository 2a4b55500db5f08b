/-
ZonedSet.Yaml.Document — from tokens to a flat mapping.

A stream holds one document at most, and the document is empty or a mapping of scalars to scalars.
A key or a value that is left out is an empty plain scalar. An alias stands for the scalar that its
anchor marks.

Anchors are numbered in the order of the document: an anchor gets as its number how many names are
bound already. So a name that is bound anew may share its number with the next new name, and what
an alias means is the last node with its number.
-/
import ZonedSet.Yaml.Lexer

namespace ZonedSet.Yaml

/-- A scalar with its style, and its tag where it has one. -/
structure Scalar where
  text : List Char
  style : Style
  tag : Option (List UInt8)
  deriving DecidableEq, Repr, Inhabited

/-- The scalar that stands for something left out. -/
def Scalar.omitted : Scalar := ⟨[], .plain, none⟩

/-- A document. -/
inductive Document where
  | empty
  | mapping (entries : List (Scalar × Scalar))
  deriving Repr, Inhabited

/-! ## Anchors and tags -/

/-- A key or a value, before aliases are looked up. -/
inductive Item where
  | scalar (s : Scalar)
  /-- The node with this number. -/
  | alias (number : Nat)

/-- What holds from one node of a document to the next. -/
structure Scope where
  /-- The resource names that tag handles stand for. -/
  handles : List (List Char × List UInt8)
  /-- The numbers of the anchors. -/
  anchors : List (List Char × Nat)
  /-- The nodes by number, the latest first; `none` for the mapping itself. -/
  nodes : List (Nat × Option Scalar)

namespace Scope

/-- The handles that every document has, unless it gives them another meaning. -/
def defaultHandles : List (List Char × List UInt8) :=
  [(['!'], ['!'.toNat.toUInt8]),
    (['!', '!'], "tag:yaml.org,2002:".toList.map fun c => c.toNat.toUInt8)]

/-- The full form of a tag; `none` if its handle is unknown. -/
def tag? (s : Scope) (handle : List Char) (rest : List UInt8) : Option (List UInt8) :=
  if handle.isEmpty then some rest else (s.handles.lookup handle).map (· ++ rest)

/-- Binds a name, if one is given, to a node. -/
def bind (s : Scope) (name : Option (List Char)) (node : Option Scalar) : Scope :=
  match name with
  | none => s
  | some n =>
    let number := s.anchors.length
    { s with
      anchors := (n, number) :: s.anchors.filter (·.1 ≠ n)
      nodes := (number, node) :: s.nodes }

/-- The scalar that an item stands for; `none` if it stands for the mapping. -/
def resolve (s : Scope) : Item → Option Scalar
  | .scalar v => some v
  | .alias number => (s.nodes.lookup number).join

end Scope

/-! ## Nodes -/

/-- What stands before a node: an anchor, a tag, or both in any order. -/
structure Properties where
  anchor : Option (List Char)
  tag : Option (List UInt8)

/-- Are there no properties? -/
def Properties.isNone (p : Properties) : Bool := p.anchor.isNone && p.tag.isNone

/-- Reads the properties before a node. -/
def readProperties (s : Scope) : List Token → Option (Properties × List Token)
  | .anchor a :: .tag h r :: rest => (s.tag? h r).map fun t => (⟨some a, some t⟩, rest)
  | .tag h r :: .anchor a :: rest => (s.tag? h r).map fun t => (⟨some a, some t⟩, rest)
  | .anchor a :: rest => some (⟨some a, none⟩, rest)
  | .tag h r :: rest => (s.tag? h r).map fun t => (⟨none, some t⟩, rest)
  | rest => some (⟨none, none⟩, rest)

/-- Reads a scalar or an alias. Properties may stand alone, before a scalar left out. -/
def readItem (s : Scope) (tokens : List Token) : Option (Item × Scope × List Token) :=
  match tokens with
  | .alias name :: rest => (s.anchors.lookup name).map fun n => (.alias n, s, rest)
  | _ =>
    match readProperties s tokens with
    | none => none
    | some (p, .scalar text style :: rest) =>
      let v : Scalar := ⟨text, style, p.tag⟩
      some (.scalar v, s.bind p.anchor (some v), rest)
    | some (_, .flowMappingStart :: _) => none
    | some (_, .blockMappingStart :: _) => none
    | some (p, rest) =>
      if p.isNone then none
      else
        let v : Scalar := ⟨[], .plain, p.tag⟩
        some (.scalar v, s.bind p.anchor (some v), rest)

/-- Reads an item, or takes it for left out before one of the tokens that may follow it. -/
def readOptional (s : Scope) (ends : Token → Bool) (tokens : List Token) :
    Option (Item × Scope × List Token) :=
  match tokens with
  | t :: _ => if ends t then some (.scalar .omitted, s, tokens) else readItem s tokens
  | [] => none

/-! ## Mappings -/

/-- A part of a document read: the entries, the scope after them, and what is left. -/
abbrev Entries := List (Item × Item) × Scope × List Token

/-- What may follow a key or a value in block style. -/
def endsBlockItem (t : Token) : Bool := t == .key || t == .value || t == .blockEnd

/-- Reads the value of an entry, and its mark; both may be left out. -/
def readValue (s : Scope) (ends : Token → Bool) (tokens : List Token) :
    Option (Item × Scope × List Token) :=
  match tokens with
  | .value :: rest => readOptional s ends rest
  | _ => some (.scalar .omitted, s, tokens)

/-- Reads the entries of a block mapping. Every one has a mark for its key, so the number of tokens
is fuel enough. -/
def readBlockEntries : (fuel : Nat) → Scope → List Token → Option Entries
  | 0, _, _ => none
  | fuel + 1, s, tokens =>
    match tokens with
    | .blockEnd :: rest => some ([], s, rest)
    | .key :: rest => do
      let (key, s, rest) ← readOptional s endsBlockItem rest
      let (value, s, rest) ← readValue s endsBlockItem rest
      let (entries, s, rest) ← readBlockEntries fuel s rest
      return ((key, value) :: entries, s, rest)
    | _ => none

/-- What may follow a key in flow style. -/
def endsFlowKey (t : Token) : Bool := t == .value || t == .flowEntry || t == .flowMappingEnd

/-- What may follow a value in flow style. -/
def endsFlowValue (t : Token) : Bool := t == .flowEntry || t == .flowMappingEnd

/-- Reads one entry of a flow mapping. A key without a mark has no value. -/
def readFlowEntry (s : Scope) (tokens : List Token) :
    Option ((Item × Item) × Scope × List Token) :=
  match tokens with
  | .key :: rest => do
    let (key, s, rest) ← readOptional s endsFlowKey rest
    let (value, s, rest) ← readValue s endsFlowValue rest
    return ((key, value), s, rest)
  | _ => do
    let (key, s, rest) ← readItem s tokens
    return ((key, .scalar .omitted), s, rest)

/-- Reads the entries of a flow mapping, which commas part. A comma may come after the last. Every
entry takes a token, so the number of tokens is fuel enough. -/
def readFlowEntries : (fuel : Nat) → (first : Bool) → Scope → List Token → Option Entries
  | 0, _, _, _ => none
  | fuel + 1, first, s, tokens =>
    match tokens with
    | .flowMappingEnd :: rest => some ([], s, rest)
    | _ => do
      let tokens ←
        if first then some tokens
        else
          match tokens with
          | .flowEntry :: rest => some rest
          | _ => none
      match tokens with
      | .flowMappingEnd :: rest => return ([], s, rest)
      | _ =>
        let (entry, s, rest) ← readFlowEntry s tokens
        let (entries, s, rest) ← readFlowEntries fuel false s rest
        return (entry :: entries, s, rest)

/-! ## Documents -/

/-- What the keys and values of a mapping stand for. -/
def resolveEntries (s : Scope) (entries : List (Item × Item)) : Option Document :=
  (entries.mapM fun (k, v) => do return (← s.resolve k, ← s.resolve v)).map .mapping

/-- Reads the node of a document. -/
def readRoot (s : Scope) (tokens : List Token) : Option (Document × List Token) := do
  let (p, rest) ← readProperties s tokens
  match rest with
  | .blockMappingStart :: rest =>
    let (entries, s, rest) ← readBlockEntries (rest.length + 1) (s.bind p.anchor none) rest
    return (← resolveEntries s entries, rest)
  | .flowMappingStart :: rest =>
    let (entries, s, rest) ← readFlowEntries (rest.length + 1) true (s.bind p.anchor none) rest
    return (← resolveEntries s entries, rest)
  | .scalar text style :: rest =>
    if text.isEmpty && style == .plain then return (.empty, rest) else none
  | rest => if p.isNone then none else return (.empty, rest)

/-- Reads directives: one version at most, which has to be 1.1 or 1.2, and a handle only once. -/
def readDirectives (version : Bool) (handles : List (List Char × List UInt8)) :
    List Token → Option (List (List Char × List UInt8) × List Token)
  | .versionDirective major minor :: rest =>
    if version || major ≠ 1 || (minor ≠ 1 && minor ≠ 2) then none
    else readDirectives true handles rest
  | .tagDirective handle lead :: rest =>
    if (handles.lookup handle).isSome then none
    else readDirectives version ((handle, lead) :: handles) rest
  | rest => some (handles, rest)

/-- Can a document that has begun be left empty before this token? -/
def endsDocument : Token → Bool
  | .versionDirective _ _ => true
  | .tagDirective _ _ => true
  | .documentStart => true
  | .documentEnd => true
  | _ => false

/-- The scope at the start of a document. -/
def Scope.initial (handles : List (List Char × List UInt8)) : Scope :=
  ⟨handles ++ defaultHandles, [], []⟩

/-- Reads a document, with or without its start marker. -/
def readDocument (tokens : List Token) : Option (Document × List Token) :=
  let marked : Bool := match tokens with
    | t :: _ => endsDocument t && t != .documentEnd
    | [] => false
  if marked then do
    let (handles, rest) ← readDirectives false [] tokens
    match rest with
    | .documentStart :: rest =>
      match rest with
      | [] => return (.empty, [])
      | t :: _ =>
        if endsDocument t then return (.empty, rest) else readRoot (.initial handles) rest
    | _ => none
  else if tokens.isEmpty then some (.empty, [])
  else readRoot (.initial []) tokens

/-- The document in a text. -/
def parse? (text : List Char) : Option Document := do
  let tokens ← tokens? text
  let (document, rest) ← readDocument tokens
  if rest.all (· == .documentEnd) then return document else none

end ZonedSet.Yaml
