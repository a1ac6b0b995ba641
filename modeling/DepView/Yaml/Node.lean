import DepView.Table
import DepView.Yaml.Tag
import DepView.Yaml.Token

/-!
The nodes of a YAML document, made of its tokens. The nodes are kept in a row and refer to each
other by their places in it, so an alias is the node that it names, even inside of that node.
-/

namespace DepView.Yaml

/-- The place of a node. -/
abbrev Ref := Nat

inductive Content where
  | scalar (text : Text)
  | sequence (items : List Ref)
  | mapping (entries : List (Ref × Ref))
deriving Repr

structure Node where
  tag : Tag
  content : Content
deriving Repr

/-- What is left to read, the handles of tags, the nodes so far and those with names. -/
structure Reading where
  tokens : List Token
  /-- What is wrong behind the tokens. It counts when one more is asked for. -/
  fault : Option Fault
  handles : Table Text
  nodes : Array Node
  anchors : Table Ref

abbrev Parse (α : Type) := StateT Reading (Except Fault) α

namespace Parse

/-- Adds a node. -/
def add (node : Node) : Parse Ref := do
  let ref := (← get).nodes.size
  modify fun s => { s with nodes := s.nodes.push node }
  return ref

/-- The node where nothing is written. -/
def empty : Parse Ref :=
  add ⟨.null, .scalar []⟩

def peek? : Parse (Option Token) := do
  let s ← get
  match s.tokens, s.fault with
  | [], some fault => throw fault
  | tokens, _ => return tokens.head?

def drop : Parse Unit :=
  modify fun s => { s with tokens := s.tokens.tail }

def isNext (tokens : List Token) : Parse Bool := do
  return (← peek?).any tokens.contains

/-- Goes over a token, which has to be there. -/
def expect (token : Token) : Parse Unit := do
  if ← isNext [token] then drop else throw .malformed

/-- The tag of a node, with its handle worked out. -/
def fullTag : Option Text × Text → Parse Text
  | (none, suffix) => pure suffix
  | (some handle, suffix) => do
    match (← get).handles.find? handle with
    | some start => return start ++ suffix
    | none => throw .malformed

def anchor? : Parse (Option Text) := do
  match ← peek? with
  | some (.anchor name) => do drop; return some name
  | _ => return none

def tag? : Parse (Option Text) := do
  match ← peek? with
  | some (.tag handle suffix) => do
    drop
    return some (← fullTag (handle, suffix))
  | _ => return none

/-- The name and the tag before a node, in either order. -/
def properties : Parse (Option Text × Option Text) := do
  match ← anchor? with
  | some name => return (some name, ← tag?)
  | none =>
    match ← tag? with
    | some tag => return (← anchor?, some tag)
    | none => return (none, none)

/-- Gives a node its name. -/
def name (anchor : Option Text) (node : Ref) : Parse Unit :=
  match anchor with
  | some a => modify fun s => { s with anchors := s.anchors.insert a node }
  | none => pure ()

/-- The kind of a node with an optional tag. A lone exclamation mark is as good as none. -/
def tagOr (standard : Tag) (tag : Option Text) : Tag :=
  match tag with
  | none => standard
  | some ['!'] => standard
  | some text => .ofText text

def scalarTag (tag : Option Text) (isPlain : Bool) (text : Text) : Tag :=
  tagOr (if isPlain || tag.isSome then .ofPlain text else .str) tag

/-- Adds a scalar. -/
def scalar (anchor : Option Text) (tag : Tag) (text : Text) : Parse Ref := do
  let ref ← add ⟨tag, .scalar text⟩
  name anchor ref
  return ref

/-- Adds a collection, which already has its place and its name while it is read. -/
def collection (anchor : Option Text) (tag : Tag) (read : Parse Content) : Parse Ref := do
  let ref ← add ⟨tag, .sequence []⟩
  name anchor ref
  let content ← read
  modify fun s => { s with nodes := s.nodes.setIfInBounds ref ⟨tag, content⟩ }
  return ref

mutual

/-- A node. One in a block may be a block itself; the value of a key may be a sequence without an
indentation of its own. -/
def node (isBlock isValue : Bool) : Nat → Parse Ref
  | 0 => throw .malformed
  | fuel + 1 => do
    if let some (.alias a) ← peek? then
      drop
      match (← get).anchors.find? a with
      | some node => return node
      | none => throw .malformed
    let (anchor, tag) ← properties
    if let some a := anchor then
      if ((← get).anchors.find? a).isSome then throw .malformed
    let listTag := tagOr .seq tag
    let tableTag := tagOr .map tag
    let sequence (read : Parse (List Ref)) := collection anchor listTag (.sequence <$> read)
    let mapping (read : Parse (List (Ref × Ref))) := collection anchor tableTag (.mapping <$> read)
    match ← peek? with
    | some (.scalar isPlain text) => do
      drop
      scalar anchor (scalarTag tag isPlain text) text
    | some .flowSequence => do drop; sequence (flowItems true fuel)
    | some .flowMapping => do drop; mapping (flowEntries true fuel)
    | token =>
      if isValue && token == some .blockEntry then sequence (valueItems fuel)
      else if isBlock && token == some .blockSequence then do drop; sequence (blockItems fuel)
      else if isBlock && token == some .blockMapping then do drop; mapping (blockEntries fuel)
      else if anchor.isSome || tag.isSome then scalar anchor (scalarTag tag true []) []
      else throw .malformed

/-- A node, or nothing before one of some tokens. -/
def nodeUnless (ends : List Token) (isBlock isValue : Bool) : Nat → Parse Ref
  | 0 => throw .malformed
  | fuel + 1 => do
    if ← isNext ends then empty else node isBlock isValue fuel

def blockItems : Nat → Parse (List Ref)
  | 0 => throw .malformed
  | fuel + 1 => do
    if ← isNext [.blockEntry] then
      drop
      let item ← nodeUnless [.blockEntry, .blockEnd] true false fuel
      return item :: (← blockItems fuel)
    else
      expect .blockEnd
      return []

/-- The items of a sequence that is not indented more than the key before it. -/
def valueItems : Nat → Parse (List Ref)
  | 0 => throw .malformed
  | fuel + 1 => do
    if ← isNext [.blockEntry] then
      drop
      let item ← nodeUnless [.blockEntry, .key, .value, .blockEnd] true false fuel
      return item :: (← valueItems fuel)
    else return []

def blockEntries : Nat → Parse (List (Ref × Ref))
  | 0 => throw .malformed
  | fuel + 1 => do
    if ← isNext [.key] then
      drop
      let key ← nodeUnless [.key, .value, .blockEnd] true true fuel
      let value ←
        if ← isNext [.value] then do drop; nodeUnless [.key, .value, .blockEnd] true true fuel
        else empty
      return (key, value) :: (← blockEntries fuel)
    else
      expect .blockEnd
      return []

/-- The items in square brackets. One with a colon is a mapping of a single entry. -/
def flowItems (isFirst : Bool) : Nat → Parse (List Ref)
  | 0 => throw .malformed
  | fuel + 1 => do
    if ← isNext [.flowSequenceEnd] then do drop; return []
    if !isFirst then expect .flowEntry
    if ← isNext [.flowSequenceEnd] then do drop; return []
    let item ←
      if ← isNext [.key] then do
        drop
        let key ← nodeUnless [.value, .flowEntry, .flowSequenceEnd] false false fuel
        let value ←
          if ← isNext [.value] then do drop; nodeUnless [.flowEntry, .flowSequenceEnd] false false fuel
          else empty
        add ⟨.map, .mapping [(key, value)]⟩
      else node false false fuel
    return item :: (← flowItems false fuel)

def flowEntries (isFirst : Bool) : Nat → Parse (List (Ref × Ref))
  | 0 => throw .malformed
  | fuel + 1 => do
    if ← isNext [.flowMappingEnd] then do drop; return []
    if !isFirst then expect .flowEntry
    if ← isNext [.flowMappingEnd] then do drop; return []
    let entry ←
      if ← isNext [.key] then do
        drop
        let key ← nodeUnless [.value, .flowEntry, .flowMappingEnd] false false fuel
        let value ←
          if ← isNext [.value] then do drop; nodeUnless [.flowEntry, .flowMappingEnd] false false fuel
          else empty
        pure (key, value)
      else do
        let key ← node false false fuel
        pure (key, ← empty)
    return entry :: (← flowEntries false fuel)

end

/-- The handles that are always there. -/
def standardHandles : Table Text :=
  [(['!'], ['!']), (['!', '!'], Tag.space)]

/-- The directives before a document, which may name a version and handles of tags once each. -/
def directives (hasVersion : Bool) (handles : Table Text) : Nat → Parse Unit
  | 0 => throw .malformed
  | fuel + 1 => do
    let next ← peek?
    drop
    match next with
    | some (.directive (.version major)) =>
      if hasVersion || major != 1 then throw .malformed else directives true handles fuel
    | some (.directive (.tagHandle handle start)) =>
      if (handles.find? handle).isSome then throw .malformed
      else directives hasVersion (handles.insert handle start) fuel
    | some (.directive .other) => directives hasVersion handles fuel
    | some .documentStart =>
      let others := standardHandles.filter fun h => (handles.find? h.1).isNone
      modify fun s => { s with handles := handles ++ others }
    | _ => throw .malformed

/-- The content of a document; there may be none behind its start. -/
def content (mayBeEmpty : Bool) : Parse Ref := do
  let isEmpty := match ← peek? with
    | none | some .documentStart | some .documentEnd => true
    | some (.directive _) => true
    | _ => false
  if mayBeEmpty && isEmpty then empty
  else node true false (3 * (← get).tokens.length + 3)

/-- Goes over tokens of a class. -/
def dropWhile (p : Token → Bool) : Parse Unit :=
  modify fun s => { s with tokens := s.tokens.dropWhile p }

/-- The end of the only document. Directives of another one are read before it is refused. -/
def finish : Parse Unit := do
  dropWhile (· == .documentEnd)
  if (← peek?).isSome then
    dropWhile fun token => match token with
      | .directive _ => true
      | _ => false
    discard peek?
    throw .malformed

/-- The only document, if there is one. -/
def document? : Parse (Option Ref) := do
  let root ← match ← peek? with
    | none => return none
    | some .documentStart => directives false [] 1; content true
    | some (.directive _) => directives false [] ((← get).tokens.length + 1); content true
    | _ => content false
  finish
  return some root

end Parse

/-- The nodes of a text with one document, and which of them is the root, if there is one. -/
def nodesOf (text : Text) : Except Fault (Option Ref × Array Node) := do
  let tokens := Tokens.ofText text
  let (root, s) ← Parse.document?.run ⟨tokens.list, tokens.fault, Parse.standardHandles, #[], []⟩
  return (root, s.nodes)

end DepView.Yaml
