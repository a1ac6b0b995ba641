import DepView.Text.Base64
import DepView.Text.Surrogate
import DepView.Yaml.Node
import DepView.Yaml.Number
import DepView.Yaml.Value

/-!
The values of nodes. Scalars are worked out when they are met. Collections wait in a line and are
filled one after the other, so what is wrong far inside is found after what is wrong outside. What a
mapping merges is put before its own entries when the mapping is filled.
-/

namespace DepView.Yaml

/-- What has been made of a node: the value of a scalar, or a collection. -/
inductive Made where
  | atom (value : Value)
  | collection

/-- What a collection has been filled with. Of a table only the members with a text for a name are
kept, of a list only how long it is. -/
inductive Filling where
  | table (members : List (Text × Ref))
  | list (size : Nat)

structure Building where
  nodes : Array Node
  made : List (Ref × Made)
  waiting : List Ref
  filled : List (Ref × Filling)

abbrev Build (α : Type) := StateT Building (Except Fault) α

namespace Build

def nodeAt (ref : Ref) : Build Node := do
  match (← get).nodes[ref]? with
  | some node => return node
  | none => throw .malformed

def setNode (ref : Ref) (node : Node) : Build Unit :=
  modify fun s => { s with nodes := s.nodes.setIfInBounds ref node }

/-- The text of a node. A mapping has that of the entry whose key is the sign for a default value.
No way to it is longer than there are nodes. -/
def textOf (depth : Nat) (ref : Ref) : Build Text := do
  match depth, (← nodeAt ref).content with
  | _, .scalar text => return text
  | _, .sequence _ => throw .malformed
  | 0, .mapping _ => throw (.scalar .endless)
  | depth + 1, .mapping entries =>
    for (key, value) in entries do
      if (← nodeAt key).tag == .value then return ← textOf depth value
    throw .malformed

def boolOf (text : Text) : Except Fault Bool :=
  match String.ofList (text.map Char.toLower) with
  | "yes" | "true" | "on" => .ok true
  | "no" | "false" | "off" => .ok false
  | _ => .error (.scalar .notTruth)

def bytesOf (text : Text) : Except Fault Bytes :=
  match text.all (·.toNat < 128), Text.Base64.decode? text with
  | true, some bytes => .ok bytes
  | _, _ => .error .malformed

def checkDate (text : Text) : Except Fault Unit :=
  match Date.ofText? text with
  | none => .error (.scalar .notDate)
  | some date => if date.isValid then .ok () else .error (.scalar .noSuchDay)

/-- The value of a node that is to be a scalar. A date is only read from a scalar itself. -/
def atomOf (tag : Tag) (ref : Ref) : Build Value := do
  let text ← textOf (← get).nodes.size ref
  match tag with
  | .null => return .null
  | .str => return .text text
  | .bool => return .bool (← boolOf text)
  | .int => return .int (← Number.intOf text)
  | .float => return .num (← Number.floatOf text)
  | .binary => return .bytes (← bytesOf text)
  | .timestamp =>
    match (← nodeAt ref).content with
    | .scalar text => checkDate text; return .date
    | _ => throw (.scalar .notText)
  | _ => throw .malformed

/-- Makes a node what it is to be. A collection is put in the line. -/
def make (ref : Ref) : Build Made := do
  if let some made := (← get).made.lookup ref then return made
  let tag := (← nodeAt ref).tag
  let made ← match tag with
    | .seq | .map | .set | .omap | .pairs =>
      modify fun s => { s with waiting := s.waiting ++ [ref] }
      pure Made.collection
    | .merge | .value | .unknown => throw .malformed
    | tag => Made.atom <$> atomOf tag ref
  modify fun s => { s with made := (ref, made) :: s.made }
  return made

/-- The entries of a node that has to be a mapping. -/
def entriesAt (ref : Ref) : Build (List (Ref × Ref)) := do
  match (← nodeAt ref).content with
  | .mapping entries => return entries
  | _ => throw .malformed

def setEntries (ref : Ref) (entries : List (Ref × Ref)) : Build Unit := do
  setNode ref { ← nodeAt ref with content := .mapping entries }

mutual

/-- Works out the merge keys of a mapping from the entry at an index on. What they bring comes
before all entries. The sign for a default value becomes a text where it is met. -/
def flattenFrom (ref : Ref) (index : Nat) (merged : List (Ref × Ref)) : Nat → Build Unit
  | 0 => throw .malformed
  | fuel + 1 => do
    let entries ← entriesAt ref
    match entries[index]? with
    | none => if !merged.isEmpty then setEntries ref (merged ++ entries)
    | some (key, value) =>
      let node ← nodeAt key
      if node.tag == .merge then
        setEntries ref (entries.eraseIdx index)
        let more ← mergedAt value fuel
        flattenFrom ref index (merged ++ more) fuel
      else
        if node.tag == .value then setNode key { node with tag := .str }
        flattenFrom ref (index + 1) merged fuel

/-- The entries that the value of a merge key stands for. Of several mappings the first counts most,
so its entries come last. -/
def mergedAt (value : Ref) : Nat → Build (List (Ref × Ref))
  | 0 => throw .malformed
  | fuel + 1 => do
    match (← nodeAt value).content with
    | .scalar _ => throw .malformed
    | .mapping _ =>
      flattenFrom value 0 [] fuel
      entriesAt value
    | .sequence items =>
      let found ← mergedItems items fuel
      return found.reverse.flatten

def mergedItems : List Ref → Nat → Build (List (List (Ref × Ref)))
  | [], _ => return []
  | _ :: _, 0 => throw .malformed
  | item :: rest, fuel + 1 => do
    discard (entriesAt item)
    flattenFrom item 0 [] fuel
    let entries ← entriesAt item
    return entries :: (← mergedItems rest fuel)

end

/-- More steps than merging takes in any document that is not made to grow by it. -/
def mergeFuel (nodes : Array Node) : Nat :=
  1000 * (nodes.size + 1)

/-- Makes the keys and the values of a mapping. A key has to be a scalar; only texts are names. -/
def members : List (Ref × Ref) → Build (List (Text × Ref))
  | [] => return []
  | (key, value) :: rest => do
    let key ← make key
    if let .collection := key then throw .malformed
    discard (make value)
    let rest ← members rest
    match key with
    | .atom (.text name) => return (name, value) :: rest
    | _ => return rest

/-- Makes the entries of a list of mappings that have one each. -/
def pairs : List Ref → Build Unit
  | [] => return ()
  | item :: rest => do
    match ← entriesAt item with
    | [(key, value)] =>
      discard (make key)
      discard (make value)
      pairs rest
    | _ => throw .malformed

/-- Fills a collection. -/
def fill (ref : Ref) : Build Filling := do
  match (← nodeAt ref).tag, (← nodeAt ref).content with
  | .seq, .sequence items =>
    items.forM fun item => discard (make item)
    return .list items.length
  | .omap, .sequence items | .pairs, .sequence items =>
    pairs items
    return .list items.length
  | .map, .mapping _ =>
    flattenFrom ref 0 [] (mergeFuel (← get).nodes)
    return .table (Table.ofPairs (← members (← entriesAt ref)))
  | .set, .mapping _ =>
    flattenFrom ref 0 [] (mergeFuel (← get).nodes)
    let entries ← entriesAt ref
    discard (members entries)
    return .list entries.length
  | _, _ => throw .malformed

/-- Fills the collections in the line until there is none. Each node is in it once at most. -/
def fillAll : Nat → Build Unit
  | 0 => return ()
  | fuel + 1 => do
    match (← get).waiting with
    | [] => return ()
    | ref :: rest =>
      modify fun s => { s with waiting := rest }
      let filling ← fill ref
      modify fun s => { s with filled := (ref, filling) :: s.filled }
      fillAll fuel

end Build

/-- The value that has been made of a node, down to some depth. -/
def Building.valueOf (b : Building) (depth : Nat) (ref : Ref) : Value :=
  match depth, b.made.lookup ref with
  | _, some (.atom value) => value
  | 0, _ => .deeper
  | depth + 1, some .collection =>
    match b.filled.lookup ref with
    | some (.table members) => .table (members.map fun (name, ref) => (name, b.valueOf depth ref))
    | some (.list size) => .list (List.replicate size .deeper)
    | none => .deeper
  | _, none => .deeper

/-- How deep somebody looks into the value of a document: at a table and at the tables in it. -/
def Value.depth : Nat := 3

/-- The value of a text in YAML. A text without document has the value null. -/
def read (text : Text) : Except Fault Value := do
  match ← nodesOf text with
  | (none, _) => return .null
  | (some root, nodes) =>
    let build : Build Unit := do
      discard (Build.make root)
      Build.fillAll nodes.size
    let ((), b) ← build.run ⟨nodes, [], [], []⟩
    return b.valueOf Value.depth root

end DepView.Yaml
