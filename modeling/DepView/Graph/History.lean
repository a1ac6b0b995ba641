import DepView.Graph.Basic
import DepView.Json.Basic
import DepView.Text.Utf8

/-!
Building a graph by calls whose arguments may be any values. Identifiers and labels have to be
texts. A call that is refused leaves the graph as it was, except that an edge whose target is
refused may have introduced its source.

Among the values of JSON only texts count as texts, and a graph needs no more than its nodes in
order. A program has other values that count as a text and yet are no text where they are looked
up. So a registry of nodes keeps the keys under which they were put.
-/

namespace DepView.Graph

inductive CallFault where
  | notText
  | notLookedUp
deriving DecidableEq, Repr

/-- A call that may change a graph. A node added without a label, or with null for one, is
labelled with its identifier. -/
inductive Call where
  | addNode (id label : Json)
  | ensureNode (id : Json)
  | addEdge (source target : Json)

inductive Answer where
  | node (node : Node)
  | edge (edge : Edge)
deriving DecidableEq, Repr

/-- Looks a value up among the identifiers. A list or an object cannot be looked up, and what is
not a text is not found. -/
def lookup (g : Graph) : Json → Except CallFault (Option Node)
  | .str id => .ok (g.find? id)
  | .arr _ => .error .notLookedUp
  | .obj _ => .error .notLookedUp
  | _ => .ok none

/-- Adds a node if its identifier and its label are texts. -/
def tryAddNode (g : Graph) (id label : Json) : Graph × Except CallFault Node :=
  match id, label with
  | .str id, .str label => (g.addNode id label, .ok ⟨id, label⟩)
  | .str id, .null => (g.addNode id id, .ok ⟨id, id⟩)
  | _, _ => (g, .error .notText)

def tryEnsureNode (g : Graph) (id : Json) : Graph × Except CallFault Node :=
  match g.lookup id with
  | .error fault => (g, .error fault)
  | .ok (some node) => (g, .ok node)
  | .ok none => g.tryAddNode id .null

/-- Appends an edge after its endpoints have been ensured, source first. -/
def tryAddEdge (g : Graph) (source target : Json) : Graph × Except CallFault Edge :=
  match g.tryEnsureNode source with
  | (g, .error fault) => (g, .error fault)
  | (g, .ok s) =>
    match g.tryEnsureNode target with
    | (g, .error fault) => (g, .error fault)
    | (g, .ok t) => ({ g with edges := g.edges ++ [⟨s.id, t.id⟩] }, .ok ⟨s.id, t.id⟩)

def apply (g : Graph) : Call → Graph × Except CallFault Answer
  | .addNode id label =>
    let (g, answer) := g.tryAddNode id label
    (g, answer.map .node)
  | .ensureNode id =>
    let (g, answer) := g.tryEnsureNode id
    (g, answer.map .node)
  | .addEdge source target =>
    let (g, answer) := g.tryAddEdge source target
    (g, answer.map .edge)

/-- The graph after some calls on an empty one. -/
def ofCalls (calls : List Call) : Graph :=
  calls.foldl (fun g call => (g.apply call).1) empty

/-! Values of a program, and the registry of nodes under keys. -/

/-- A value, by what it counts as and how it is looked up. What is not listed is like a number or
like a list: it counts as no text, and it is not found or cannot be looked up. -/
inductive Value where
  | json (value : Json)
  | bytes (content : Bytes)
  /-- Bytes that can be changed cannot be looked up. -/
  | buffer (content : Bytes)
  /-- A member of an enumeration is looked up as itself. -/
  | member (identity : Nat) (text : Text)

/-- What a node can be found under. -/
inductive Key where
  | text (text : Text)
  | bytes (content : Bytes)
  | member (identity : Nat) (text : Text)
deriving DecidableEq

namespace Value

/-- The text that a value counts as. -/
def text? : Value → Option Text
  | json (.str text) => some text
  | json _ => none
  | bytes content => Text.Utf8.decode? content
  | buffer content => Text.Utf8.decode? content
  | member _ text => some text

/-- The key that a value is looked up by. Other values can be looked up, but are never found. -/
def key? : Value → Except CallFault (Option Key)
  | json (.str text) => .ok (some (.text text))
  | json (.arr _) => .error .notLookedUp
  | json (.obj _) => .error .notLookedUp
  | json _ => .ok none
  | bytes content => .ok (some (.bytes content))
  | buffer _ => .error .notLookedUp
  | member identity text => .ok (some (.member identity text))

end Value

structure Registry where
  entries : List (Key × Node)
  edges : List Edge

namespace Registry

inductive Call where
  | addNode (id label : Value)
  | ensureNode (id : Value)
  | addEdge (source target : Value)

def empty : Registry := ⟨[], []⟩

/-- The graph that a registry stands for. -/
def graph (r : Registry) : Graph :=
  ⟨r.entries.map (·.2), r.edges⟩

def lookup (r : Registry) (id : Value) : Except CallFault (Option Node) :=
  id.key?.map fun key => key.bind fun key => List.lookup key r.entries

/-- Puts a node in the place of the one under its key, or at the end. -/
def put (key : Key) (node : Node) : List (Key × Node) → List (Key × Node)
  | [] => [(key, node)]
  | (k, n) :: rest => if k = key then (k, node) :: rest else (k, n) :: put key node rest

/-- The value that a node is labelled with. -/
def labelOf (id : Value) : Value → Value
  | .json .null => id
  | label => label

/-- Makes a node of texts, and then puts it under the key of its identifier. -/
def tryAddNode (r : Registry) (id label : Value) : Registry × Except CallFault Node :=
  match id.text?, (labelOf id label).text?, id.key? with
  | some text, some label, .ok (some key) =>
    ({ r with entries := put key ⟨text, label⟩ r.entries }, .ok ⟨text, label⟩)
  | some _, some _, .error fault => (r, .error fault)
  | _, _, _ => (r, .error .notText)

def tryEnsureNode (r : Registry) (id : Value) : Registry × Except CallFault Node :=
  match r.lookup id with
  | .error fault => (r, .error fault)
  | .ok (some node) => (r, .ok node)
  | .ok none => r.tryAddNode id (.json .null)

/-- Appends an edge after its endpoints have been ensured, source first. Its ends are texts. -/
def tryAddEdge (r : Registry) (source target : Value) : Registry × Except CallFault Edge :=
  match r.tryEnsureNode source with
  | (r, .error fault) => (r, .error fault)
  | (r, .ok _) =>
    match r.tryEnsureNode target with
    | (r, .error fault) => (r, .error fault)
    | (r, .ok _) =>
      match source.text?, target.text? with
      | some s, some t => ({ r with edges := r.edges ++ [⟨s, t⟩] }, .ok ⟨s, t⟩)
      | _, _ => (r, .error .notText)

def apply (r : Registry) : Call → Registry × Except CallFault Answer
  | .addNode id label =>
    let (r, answer) := r.tryAddNode id label
    (r, answer.map .node)
  | .ensureNode id =>
    let (r, answer) := r.tryEnsureNode id
    (r, answer.map .node)
  | .addEdge source target =>
    let (r, answer) := r.tryAddEdge source target
    (r, answer.map .edge)

def run (r : Registry) (calls : List Call) : Registry :=
  calls.foldl (fun r call => (r.apply call).1) r

/-- What the calls are answered, in turn. -/
def answers (r : Registry) : List Call → List (Except CallFault Answer)
  | [] => []
  | call :: calls => (r.apply call).2 :: (r.apply call).1.answers calls

end Registry

end DepView.Graph
