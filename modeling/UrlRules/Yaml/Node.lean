import UrlRules.Yaml.Scan
import UrlRules.Yaml.Tag
import UrlRules.Yaml.Timestamp

/-!
# From tokens to nodes

A document is a node: a scalar, a sequence or a mapping, each with its tag and the place where it
starts. An alias stands for the node with its anchor, which has to be complete.
-/
namespace UrlRules.Yaml

open Text

inductive Node where
  | scalar (tag : Tag) (text : Text) (start : Mark)
  | sequence (tag : Tag) (items : List Node) (start : Mark)
  | mapping (tag : Tag) (entries : List (Node × Node)) (start : Mark)
  deriving Repr, Inhabited

namespace Node

def tag : Node → Tag
  | .scalar tag .. => tag
  | .sequence tag .. => tag
  | .mapping tag .. => tag

def start : Node → Mark
  | .scalar _ _ start => start
  | .sequence _ _ start => start
  | .mapping _ _ start => start

def kind : Node → NodeKind
  | .scalar .. => .scalar
  | .sequence .. => .sequence
  | .mapping .. => .mapping

end Node

/-- The tag of a plain scalar. -/
def Tag.ofPlain (s : Text) : Tag :=
  if Form.isTruthWord s then .bool
  else if Form.isFloat s then .float
  else if Form.isInt s then .int
  else if Form.isNullWord s then .null
  else if WrittenDate.isPlain s then .timestamp
  else if s = Text.of "<<" then .merge
  else if s = Text.of "=" then .value
  else if s = Text.of "!" ∨ s = Text.of "&" ∨ s = Text.of "*" then Tag.ofName (family ++ Text.of "yaml")
  else .text

/-- A node that an anchor names: where it starts, and what it is once it is complete. -/
structure Anchored where
  start : Mark
  node : Option Node
  deriving Repr

/-- The tokens that are left, the anchors so far, and what the handles of tags stand for. -/
structure Composer where
  lexemes : List Lexeme
  fault : Option Error
  anchors : List (Text × Anchored)
  handles : List (Text × Text)

abbrev Compose := StateT Composer (Except Error)

namespace Compose

/-- The next token. Where they break off, the fault is reported. -/
def peek : Compose Lexeme := do
  let s ← get
  match s.lexemes, s.fault with
  | lexeme :: _, _ => return lexeme
  | [], some e => throw e
  | [], none => throw (.malformed none .endOfStream default)

def take : Compose Lexeme := do
  let lexeme ← peek
  modify fun s => { s with lexemes := s.lexemes.tail }
  return lexeme

/-- Whether the next token is of a class. -/
def sees (wanted : Token → Bool) : Compose Bool := return wanted (← peek).token

/-- Takes a token if it is the next one. -/
def takes (token : Token) : Compose Bool := do
  if (← peek).token = token then
    let _ ← take
    return true
  else return false

def isAny (tokens : List Token) (token : Token) : Bool := tokens.contains token

/-- An error at the next token in something that began at a mark. -/
def refuse {α : Type} (context : Context) (began : Mark) (cause : Text → Cause) : Compose α := do
  let lexeme ← peek
  throw (.malformed (some (context, some began)) (cause lexeme.token.text) lexeme.start)

/-- A node without content. -/
def absent (mark : Mark) : Node := .scalar .null [] mark

/-- The anchor and the tag before a node, in either order, with the places of the first of them and
of the tag. -/
structure Properties where
  anchor : Option Text
  tag : Option TagName
  start : Option Mark
  stop : Mark
  tagMark : Mark

def anchor? : Token → Option Text
  | .anchor name => some name
  | _ => none

def tag? : Token → Option TagName
  | .tag name => some name
  | _ => none

/-- Takes a property of one kind if it comes next. -/
def property {α : Type} (read : Token → Option α) : Compose (Option (α × Lexeme)) := do
  let lexeme ← peek
  match read lexeme.token with
  | none => return none
  | some value =>
      let _ ← take
      return some (value, lexeme)

def properties : Compose Properties := do
  match ← property anchor? with
  | some (anchor, first) =>
      match ← property tag? with
      | some (tag, second) =>
          return ⟨some anchor, some tag, some first.start, second.stop, second.start⟩
      | none => return ⟨some anchor, none, some first.start, first.stop, first.start⟩
  | none =>
      match ← property tag? with
      | some (tag, first) =>
          match ← property anchor? with
          | some (anchor, second) =>
              return ⟨some anchor, some tag, some first.start, second.stop, first.start⟩
          | none => return ⟨none, some tag, some first.start, first.stop, first.start⟩
      | none => return ⟨none, none, none, default, default⟩

/-- The name of a tag, its handle replaced by what it stands for. -/
def tagName (p : Properties) : Compose (Option Text) := do
  match p.tag with
  | none => return none
  | some ⟨none, name⟩ => return some name
  | some ⟨some handle, rest⟩ =>
      match (← get).handles.lookup handle with
      | some lead => return some (lead ++ rest)
      | none =>
          throw (.malformed (some (.node, p.start)) (.undefinedHandle handle) p.tagMark)

/-- The tag that leaves the choice to the form of the text. -/
def openTag : Text := [0x21]

def scalarTag (name : Option Text) (plain : Bool) (text : Text) : Tag :=
  match name with
  | none => if plain then Tag.ofPlain text else .text
  | some name => if name = openTag then Tag.ofPlain text else Tag.ofName name

def collectionTag (name : Option Text) (usual : Tag) : Tag :=
  match name with
  | none => usual
  | some name => if name = openTag then usual else Tag.ofName name

/-- Notes where the node of an anchor starts. An anchor names one node of a document. -/
def opens (anchor : Option Text) (start : Mark) : Compose Unit := do
  match anchor with
  | none => return
  | some name =>
      match (← get).anchors.lookup name with
      | some first =>
          throw (.malformed (some (.duplicateAnchor name, some first.start)) .secondOccurrence start)
      | none => modify fun s => { s with anchors := (name, ⟨start, none⟩) :: s.anchors }

/-- Notes the node of an anchor. -/
def completes (anchor : Option Text) (node : Node) : Compose Node := do
  match anchor with
  | none => return node
  | some name =>
      modify fun s => { s with anchors := (name, ⟨node.start, some node⟩) :: s.anchors }
      return node

def aliased (name : Text) (mark : Mark) : Compose Node := do
  match (← get).anchors.lookup name with
  | none => throw (.malformed none (.undefinedAlias name) mark)
  | some ⟨start, none⟩ => throw (.malformed none .recursiveNode start)
  | some ⟨_, some node⟩ => return node

mutual

/-- Reads a node. Block collections may stand where `block` is set, and entries at the indentation of
their key where `flat` is. -/
def node : Nat → (block flat : Bool) → Compose Node
  | 0, _, _ => throw (.malformed none .endOfStream default)
  | fuel + 1, block, flat => do
      let first ← peek
      if let .alias name := first.token then
        let _ ← take
        return ← aliased name first.start
      let p ← properties
      let name ← tagName p
      let next ← peek
      let start := p.start.getD next.start
      let sequence (read : Compose (List Node)) : Compose Node := do
        opens p.anchor start
        let items ← read
        completes p.anchor (.sequence (collectionTag name .sequence) items start)
      let mapping (read : Compose (List (Node × Node))) : Compose Node := do
        opens p.anchor start
        let entries ← read
        completes p.anchor (.mapping (collectionTag name .mapping) entries start)
      match next.token with
      | .blockEntry =>
          if flat then sequence (flatItems fuel []) else content p name start block
      | .scalar text plain =>
          let _ ← take
          opens p.anchor start
          completes p.anchor (.scalar (scalarTag name plain text) text start)
      | .flowSequenceStart =>
          let _ ← take
          sequence (flowItems fuel next.start true [])
      | .flowMappingStart =>
          let _ ← take
          mapping (flowEntries fuel next.start true [])
      | .blockSequenceStart =>
          if block then do
            let _ ← take
            sequence (blockItems fuel next.start [])
          else content p name start block
      | .blockMappingStart =>
          if block then do
            let _ ← take
            mapping (blockEntries fuel next.start [])
          else content p name start block
      | _ => content p name start block
where
  /-- A node without content has to have an anchor or a tag. -/
  content (p : Properties) (name : Option Text) (start : Mark) (block : Bool) : Compose Node := do
    if p.anchor.isNone ∧ name.isNone then
      refuse (if block then .blockNode else .flowNode) start (.expected .nodeContent)
    else
      opens p.anchor start
      completes p.anchor (.scalar (scalarTag name true []) [] start)

/-- Reads a node, or none before tokens that cannot begin one. -/
def nodeUnless : Nat → (block flat : Bool) → List Token → Mark → Compose Node
  | 0, _, _, _, _ => throw (.malformed none .endOfStream default)
  | fuel + 1, block, flat, stops, mark => do
      if ← sees (isAny stops) then return absent mark
      else node fuel block flat

/-- Reads the items of a block sequence up to its end, after those in `read`, latest first. -/
def blockItems : Nat → Mark → List Node → Compose (List Node)
  | 0, _, _ => throw (.malformed none .endOfStream default)
  | fuel + 1, began, read => do
      let entry ← peek
      if ← takes .blockEntry then
        let item ← nodeUnless fuel true false [.blockEntry, .blockEnd] entry.stop
        blockItems fuel began (item :: read)
      else if ← takes .blockEnd then return read.reverse
      else refuse .blockCollection began (.expected .blockEnd)

/-- Reads the items of a sequence at the indentation of its key. -/
def flatItems : Nat → List Node → Compose (List Node)
  | 0, _ => throw (.malformed none .endOfStream default)
  | fuel + 1, read => do
      let entry ← peek
      if ← takes .blockEntry then
        let item ← nodeUnless fuel true false [.blockEntry, .key, .value, .blockEnd] entry.stop
        flatItems fuel (item :: read)
      else return read.reverse

def blockEntries : Nat → Mark → List (Node × Node) → Compose (List (Node × Node))
  | 0, _, _ => throw (.malformed none .endOfStream default)
  | fuel + 1, began, read => do
      let first ← peek
      if ← takes .key then
        let key ← nodeUnless fuel true true [.key, .value, .blockEnd] first.stop
        let second ← peek
        if ← takes .value then
          let value ← nodeUnless fuel true true [.key, .value, .blockEnd] second.stop
          blockEntries fuel began ((key, value) :: read)
        else blockEntries fuel began ((key, absent second.start) :: read)
      else if ← takes .blockEnd then return read.reverse
      else refuse .blockMapping began (.expected .blockEnd)

/-- Reads the items between brackets. A key among them makes a mapping of one entry. -/
def flowItems : Nat → Mark → (first : Bool) → List Node → Compose (List Node)
  | 0, _, _, _ => throw (.malformed none .endOfStream default)
  | fuel + 1, began, first, read => do
      if ← takes .flowSequenceEnd then return read.reverse
      if !first then
        if !(← takes .flowEntry) then
          let _ ← refuse (α := Unit) .flowSequence began (.expectedSeparator 0x5D)
      let next ← peek
      if ← takes .key then
        let key ← nodeUnless fuel false false [.value, .flowEntry, .flowSequenceEnd] next.stop
        let second ← peek
        let value ←
          if ← takes .value then nodeUnless fuel false false [.flowEntry, .flowSequenceEnd] second.stop
          else pure (absent second.start)
        flowItems fuel began false (.mapping .mapping [(key, value)] next.start :: read)
      else if ← takes .flowSequenceEnd then return read.reverse
      else
        let item ← node fuel false false
        flowItems fuel began false (item :: read)

def flowEntries : Nat → Mark → (first : Bool) → List (Node × Node) → Compose (List (Node × Node))
  | 0, _, _, _ => throw (.malformed none .endOfStream default)
  | fuel + 1, began, first, read => do
      if ← takes .flowMappingEnd then return read.reverse
      if !first then
        if !(← takes .flowEntry) then
          let _ ← refuse (α := Unit) .flowMapping began (.expectedSeparator 0x7D)
      let next ← peek
      if ← takes .key then
        let key ← nodeUnless fuel false false [.value, .flowEntry, .flowMappingEnd] next.stop
        let second ← peek
        let value ←
          if ← takes .value then nodeUnless fuel false false [.flowEntry, .flowMappingEnd] second.stop
          else pure (absent second.start)
        flowEntries fuel began false ((key, value) :: read)
      else if ← takes .flowMappingEnd then return read.reverse
      else
        let key ← node fuel false false
        let after ← peek
        flowEntries fuel began false ((key, absent after.start) :: read)

end

/-! ## Documents -/

def usualHandles : List (Text × Text) := [([0x21], [0x21]), ([0x21, 0x21], Tag.family)]

def directive? : Token → Option Directive
  | .directive d => some d
  | _ => none

/-- Takes the directives before a document. -/
def directives : Nat → (version : Bool) → List (Text × Text) → Compose (List (Text × Text))
  | 0, _, handles => return handles
  | fuel + 1, version, handles => do
      match ← property directive? with
      | none => return handles
      | some (.version major _, lexeme) =>
          if version then throw (.malformed none .repeatedVersion lexeme.start)
          if major ≠ 1 then throw (.malformed none .incompatibleVersion lexeme.start)
          directives fuel true handles
      | some (.handle handle lead, lexeme) =>
          if (handles.lookup handle).isSome then
            throw (.malformed none (.repeatedHandle handle) lexeme.start)
          directives fuel version ((handle, lead) :: handles)
      | some (.other, _) => directives fuel version handles

def isDirectiveOrStart : Token → Bool
  | .directive _ | .documentStart => true
  | _ => false

/-- Takes directives and the mark of a start, and tells where they begin. -/
def documentStart : Compose Mark := do
  let first ← peek
  let handles ← directives (← get).lexemes.length false []
  if !(← takes .documentStart) then
    let next ← peek
    throw (.malformed none (.expected .documentStart next.token.text) next.start)
  modify fun s => { s with handles := handles ++ usualHandles, anchors := [] }
  return first.start

def skipDocumentEnds : Nat → Compose Unit
  | 0 => return
  | fuel + 1 => do if ← takes .documentEnd then skipDocumentEnds fuel

/-- Reads a text with one document, or none. -/
def document : Compose (Option Node) := do
  let fuel := 3 * (← get).lexemes.length + 3
  if ← sees (· == .streamEnd) then return none
  let root ←
    if ← sees isDirectiveOrStart then do
      let _ ← documentStart
      let next ← peek
      if isDirectiveOrStart next.token || next.token == .documentEnd || next.token == .streamEnd then
        pure (absent next.start)
      else node fuel true false
    else node fuel true false
  let _ ← takes .documentEnd
  skipDocumentEnds fuel
  if ← sees (· == .streamEnd) then return some root
  let second ← documentStart
  throw (.malformed (some (.singleDocument, some root.start)) .anotherDocument second)

end Compose

/-- The characters that no document holds. -/
def isForbidden (c : CodePoint) : Bool :=
  !(c == 0x09 || c == 0x0A || c == 0x0D || (0x20 ≤ c && c ≤ 0x7E) || c == 0x85 ||
    (0xA0 ≤ c && c ≤ 0xD7FF) || (0xE000 ≤ c && c ≤ 0xFFFD) || (0x10000 ≤ c && c ≤ 0x10FFFF))

/-- The node of the one document in a text. -/
def Node.read (s : Text) : Except Error (Option Node) :=
  match s.find? isForbidden with
  | some c => .error (.forbidden c (s.takeWhile fun ch => !isForbidden ch).length)
  | none =>
      let t := tokens s
      (Compose.document.run ⟨t.lexemes, t.fault, [], Compose.usualHandles⟩).map (·.1)

end UrlRules.Yaml
