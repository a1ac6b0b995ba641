import DepView.Artifact
import DepView.Text.Percent

/-!
Where the syntax tree of a node may be found. The identifier of a node does not say where its
artifact is, so there is a list of locations to try in order. All are made of the encoded
identifier; an identifier with slashes also has a flat form.
-/

namespace DepView.Overlay

/-- The route under which the artifacts are served. -/
def artifactRoute : Text := "/dot".toList

/-- What stands for itself in a component of a location. -/
def isComponentSafe (c : Char) : Bool :=
  c.isAlphanum || ['-', '_', '.', '!', '~', '*', '\'', '(', ')'].contains c

def encodeId (id : Text) : Text :=
  Text.Percent.encode isComponentSafe id

abbrev Generator := Text → Text

def underRoute (suffix : Text) : Generator := fun id =>
  artifactRoute ++ '/' :: encodeId id ++ suffix

def atRoot (suffix : Text) : Generator := fun id =>
  '/' :: encodeId id ++ suffix

/-- Two underscores for every encoded slash. -/
def flattenSlashes : Text → Text
  | [] => []
  | '%' :: '2' :: 'F' :: rest => '_' :: '_' :: flattenSlashes rest
  | c :: rest => c :: flattenSlashes rest

def treeDot : Text := Artifact.treeMarker ++ ".dot".toList

def flattened : Generator := fun id =>
  flattenSlashes (underRoute treeDot id)

/-- The locations to try, in order. -/
def generators : List Generator :=
  [underRoute treeDot, underRoute ".dot".toList, underRoute (treeDot ++ ".txt".toList),
   atRoot treeDot, atRoot ".dot".toList, underRoute treeDot, flattened]

/-- A list without what was in it before. -/
def firsts (seen : List Text) : List Text → List Text
  | [] => []
  | location :: rest =>
    if seen.contains location then firsts seen rest
    else location :: firsts (location :: seen) rest

/-- The locations that some generators give for an identifier, each once. -/
def locationsBy (gens : List Generator) (id : Text) : List Text :=
  firsts [] (gens.map fun generate => generate id)

def locations (id : Text) : List Text :=
  locationsBy generators id

end DepView.Overlay
