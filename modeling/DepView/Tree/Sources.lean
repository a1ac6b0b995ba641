import DepView.Tree.Files

/-!
Source files and their trees. A language has its suffixes; the sources of a directory are the
files directly in it that have one of them, in the order of their names. A grammar, if there is
one for the language, turns the content of a file into a tree.
-/

namespace DepView

/-- The suffixes of a language. -/
structure Language where
  name : String
  suffixes : List String

def languages : List Language :=
  [⟨"python", [".py"]⟩, ⟨"java", [".java"]⟩, ⟨"cpp", [".c", ".cc", ".cpp", ".h", ".hpp"]⟩,
   ⟨"go", [".go"]⟩, ⟨"kotlin", [".kt"]⟩, ⟨"ruby", [".rb"]⟩]

/-- The small letter, as far as it is one of ASCII. The Kelvin sign is a capital K. -/
def lowerChar (c : Char) : Char :=
  if c = '\u212a' then 'k' else c.toLower

def lower (text : Text) : Text :=
  text.map lowerChar

/-- The suffixes of the language with a name, in either case. Others have none. -/
def suffixesFor (language : Text) : List Text :=
  match languages.find? fun l => l.name.toList == lower language with
  | some l => l.suffixes.map String.toList
  | none => []

/-- The grammars at hand. For each language there is a reader of contents, which may give no
tree, or the reason why there is no grammar. -/
structure Grammars where
  grammar : Text → Except Text (Bytes → Except ShapeFault (Option SyntaxTree))

namespace Sources

def toolName : Text := "tree-sitter".toList

def toolFailed (reason : Text) : Failure :=
  .toolFailed toolName reason none

/-- The tree of some content. -/
def parse (grammars : Option Grammars) (language : Text) (content : Bytes) : Action SyntaxTree := do
  match grammars with
  | none =>
    throw (toolFailed
      "tree_sitter_languages is not installed (pip install 'dtsviz[treesitter]')".toList)
  | some grammars =>
    match grammars.grammar language with
    | .error reason =>
      throw (toolFailed
        ("no grammar for ".toList ++ Json.quoted language ++ [':', ' '] ++ reason))
    | .ok read =>
      match ← SyntaxTree.orShapeFault (read content) with
      | none => throw (toolFailed "parser returned no tree".toList)
      | some tree => return tree

/-- The tree of a source file. -/
def parseFile (grammars : Option Grammars) (language : Text) (path : Path) : Action SyntaxTree := do
  let content ← Action.readBytes (fun fault => .missingArtifact path (fault.message path)) path
  parse grammars language content

/-- The paths of the files of a language in a directory. -/
def sourcesIn (store : Store) (source : Path) (language : Text) :
    Except Store.Fault (List Path) := do
  let names := (store.namesIn (← store.locate source)).mergeSort fun a b => (compare a b).isLE
  (names.map fun name => source / ⟨[], [name]⟩).filterM fun path => do
    return (← store.isFile path) && (suffixesFor language).contains (lower path.suffix)

/-- The source files at a path: the file itself, or those in the directory. -/
def discover (store : Store) (source : Path) (language : Text) : Except Failure (List Path) := do
  if ← (store.isFile source).mapError .file then return [source]
  else if ← (store.isDir source).mapError .file then
    (sourcesIn store source language).mapError .file
  else throw (.missingArtifact source "source path does not exist".toList)

/-- Writes the dumps of one source file. -/
def dump (grammars : Option Grammars) (language : Text) (directory source : Path) :
    Action TreeFiles := do
  let tree ← parseFile grammars language source
  let files ← tree.writeFiles source directory
  Action.note .info .sources ("Tree-sitter output for ".toList ++ source.toText ++
    " written to ".toList ++ directory.toText)
  return files

/-- Writes the dumps of all source files at a path. -/
def dumpAll (grammars : Option Grammars) (source directory : Path) (language : Text) :
    Action (List TreeFiles) := do
  match discover (← get).store source language with
  | .error failure => throw failure
  | .ok sources => sources.mapM (dump grammars language directory)

end Sources

end DepView
