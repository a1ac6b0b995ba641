import DepView.Text.Basic

/-!
Paths. A path is relative or starts at the root, and has a list of names. Repeated slashes and
single dots mean nothing and are dropped; double dots are kept. Two slashes at the very start
are a root of their own, three and more are one.
-/

namespace DepView

structure Path where
  root : Text
  parts : List Text
deriving DecidableEq, Repr, Inhabited

namespace Path

def rootOf (text : Text) : Text :=
  match (text.takeWhile (· == '/')).length with
  | 0 => []
  | 2 => ['/', '/']
  | _ => ['/']

/-- The names between the slashes of a text. -/
def partsOf (text : Text) : List Text :=
  (Text.splitAt '/' text).filter fun part => part != [] && part != ['.']

/-- The names on the way that a text says, where a slash at its end counts as a dot. -/
def stepsOf (text : Text) : List Text :=
  (Text.splitAt '/' text).filter (· != []) ++ if text.getLast? == some '/' then [['.']] else []

def ofText (text : Text) : Path :=
  ⟨rootOf text, partsOf text⟩

def ofString (s : String) : Path :=
  ofText s.toList

def toText (p : Path) : Text :=
  match p.root, p.parts with
  | [], [] => ['.']
  | root, parts => root ++ Text.join ['/'] parts

def isAbsolute (p : Path) : Bool :=
  !p.root.isEmpty

/-- The last name, empty for a path without names. -/
def name (p : Path) : Text :=
  p.parts.getLast?.getD []

def parent (p : Path) : Path :=
  { p with parts := p.parts.dropLast }

/-- The path `q` as seen from `p`. -/
def append (p q : Path) : Path :=
  if q.isAbsolute then q else { p with parts := p.parts ++ q.parts }

instance : HDiv Path Path Path := ⟨append⟩

/-- A name cut before its last dot. A dot at either end of the name does not cut it. -/
def splitName (name : Text) : Text × Text :=
  let afterDot := Text.lastPiece (· == '.') name
  let stem := name.take (name.length - afterDot.length - 1)
  if afterDot.length < name.length && !afterDot.isEmpty && !stem.isEmpty then
    (stem, '.' :: afterDot)
  else (name, [])

def stem (p : Path) : Text :=
  (splitName p.name).1

def suffix (p : Path) : Text :=
  (splitName p.name).2

/-- A text that can be the last name of a path. Behind the name there may be slashes and single
dots as long as no slash ends it. -/
def isName (text : Text) : Bool :=
  text.getLast? != some '/' && rootOf text == [] && (partsOf text).length == 1

/-- The path with another last name. It needs a name to replace, and a proper one. -/
def withName? (p : Path) (name : Text) : Option Path :=
  if p.name.isEmpty || !isName name then none
  else some { p with parts := p.parts.dropLast ++ [name] }

/-- The path with another suffix at its last name. -/
def withSuffix? (p : Path) (suffix : Text) : Option Path :=
  p.withName? (p.stem ++ suffix)

end Path

end DepView
