import DepView.Json.Literal
import DepView.Store.Path
import DepView.Text.Utf8

/-!
The files that the program works on: files, directories and symbolic links by their place, which
is the list of names from the root, and the current directory. Operations take a path, follow
its links and say what is wrong with it if it leads nowhere.
-/

namespace DepView

inductive Entry where
  | file (content : Bytes)
  | dir
  | link (target : Text)
deriving DecidableEq, Repr

def Entry.isFile : Entry → Bool
  | file _ => true
  | _ => false

abbrev Place := List Text

def Place.toPath (place : Place) : Path :=
  ⟨['/'], place⟩

structure Store where
  current : Place
  entries : List (Place × Entry)
deriving Repr

namespace Store

/-- What the operating system says of a path. The last two are said of its text alone. -/
inductive Fault where
  | missing
  | notDirectory
  | isDirectory
  | isThere
  | linkLoop
  | nameTooLong
  | holdsNul
  | unencodable
deriving DecidableEq, Repr

def Fault.number : Fault → Nat
  | missing => 2
  | isThere => 17
  | notDirectory => 20
  | isDirectory => 21
  | nameTooLong => 36
  | linkLoop => 40
  | holdsNul | unencodable => 0

def Fault.words : Fault → String
  | missing => "No such file or directory"
  | isThere => "File exists"
  | notDirectory => "Not a directory"
  | isDirectory => "Is a directory"
  | nameTooLong => "File name too long"
  | linkLoop => "Too many levels of symbolic links"
  | holdsNul => "embedded null byte"
  | unencodable => "surrogates not allowed"

/-- A path whose text is refused is not looked for at all. -/
def Fault.isOfText : Fault → Bool
  | holdsNul | unencodable => true
  | _ => false

def Fault.message (fault : Fault) (path : Path) : Text :=
  ("[Errno " ++ toString fault.number ++ "] " ++ fault.words ++ ": ").toList ++
    Json.quoted path.toText

/-- The entry at a place. The root and the current directory are always there. -/
def entry? (s : Store) (place : Place) : Option Entry :=
  if place.isPrefixOf s.current then some .dir else List.lookup place s.entries

/-- Whether half of a surrogate pair stands for a byte of a name that is not UTF-8. -/
def isRawByte (code : Nat) : Bool :=
  0xdc80 ≤ code && code ≤ 0xdcff

/-- The number of bytes of a name, or of a path. -/
def bytesOf (name : Text) : Nat :=
  (Text.codes name).foldl (fun n code =>
    n + if isRawByte code then 1 else (Text.Utf8.encodeChar (Char.ofNat code)).length) 0

/-- Names are limited to 255 bytes. -/
def isTooLong (name : Text) : Bool :=
  255 < bytesOf name

/-- Goes along names from a directory. Every link on the way is followed, at most `links` of them,
and the last one if `follow` says so. The result is the place reached, where the last name may be
missing. -/
def walk (s : Store) (links : Nat) (follow : Bool) (place : Place) (names : List Text) :
    Except Fault Place :=
  match names with
  | [] => .ok place
  | name :: rest =>
    if name = ['.'] then walk s links follow place rest
    else if name = ['.', '.'] then walk s links follow place.dropLast rest
    else if isTooLong name then .error .nameTooLong
    else match s.entry? (place ++ [name]) with
      | none => if rest.isEmpty then .ok (place ++ [name]) else .error .missing
      | some .dir => walk s links follow (place ++ [name]) rest
      | some (.file _) => if rest.isEmpty then .ok (place ++ [name]) else .error .notDirectory
      | some (.link target) =>
        if rest.isEmpty && !follow then .ok (place ++ [name])
        else match links with
          | 0 => .error .linkLoop
          | links + 1 =>
            walk s links follow (if (Path.ofText target).isAbsolute then [] else place)
              (Path.stepsOf target ++ rest)
termination_by (links, names.length)

/-- What is wrong with the text of a path before it is looked for. -/
def textFault? (written : Text) : Option Fault :=
  if (Text.codes written).any fun code => Text.isSurrogate code && !isRawByte code then
    some .unencodable
  else if written.contains '\x00' then some .holdsNul
  else if 4096 ≤ bytesOf written then some .nameTooLong
  else none

/-- Where the names of a path start. -/
def startOf (s : Store) (p : Path) : Place :=
  if p.isAbsolute then [] else s.current

/-- The place that a path leads to, the last link followed or not. -/
def locateBy (s : Store) (follow : Bool) (p : Path) : Except Fault Place :=
  match textFault? p.toText with
  | some fault => .error fault
  | none => s.walk 40 follow (s.startOf p) p.parts

def locate (s : Store) (p : Path) : Except Fault Place :=
  s.locateBy true p

/-- The entry that a path leads to, links followed. -/
def find (s : Store) (p : Path) : Except Fault Entry := do
  match s.entry? (← s.locate p) with
  | some entry => return entry
  | none => throw .missing

/-- The entry that a text leads to as it is written. -/
def findWritten (s : Store) (written : Text) : Except Fault Entry := do
  if let some fault := textFault? written then throw fault
  if written.isEmpty then throw .missing
  match s.entry? (← s.walk 40 true (s.startOf (Path.ofText written)) (Path.stepsOf written)) with
  | some entry => return entry
  | none => throw .missing

/-- Whether a path leads to an entry of some kind. There is no answer for a name that is too long;
any other path that leads nowhere leads to no entry. -/
def leadsTo (s : Store) (p : Path) (kind : Entry → Bool) : Except Fault Bool :=
  match s.find p with
  | .ok entry => .ok (kind entry)
  | .error .nameTooLong => .error .nameTooLong
  | .error _ => .ok false

def isFile (s : Store) (p : Path) : Except Fault Bool :=
  s.leadsTo p Entry.isFile

def isDir (s : Store) (p : Path) : Except Fault Bool :=
  s.leadsTo p (· == .dir)

/-- Whether a path leads to a file or a directory. -/
def hasPath (s : Store) (p : Path) : Except Fault Bool :=
  s.leadsTo p fun _ => true

/-- How many links there are. -/
def linkCount (s : Store) : Nat :=
  (s.entries.filter fun (_, entry) => match entry with
    | .link _ => true
    | _ => false).length

/-- Goes along names like `walk`, but takes what is missing, or is no directory, as it is written,
and follows any number of links. A link that is met while it is being followed ends the way: the
rest is taken as it is written, too, and the flag of the result is off. -/
def reach (s : Store) (depth : Nat) (followed : List Place) (place : Place) (names : List Text) :
    Place × Bool :=
  match names with
  | [] => (place, true)
  | name :: rest =>
    if name = ['.'] then reach s depth followed place rest
    else if name = ['.', '.'] then reach s depth followed place.dropLast rest
    else match s.entry? (place ++ [name]) with
      | some (.link target) =>
        if followed.contains (place ++ [name]) then (place ++ name :: rest, false)
        else match depth with
          | 0 => (place ++ name :: rest, false)
          | depth + 1 =>
            let start := if (Path.ofText target).isAbsolute then [] else place
            match reach s depth ((place ++ [name]) :: followed) start (Path.stepsOf target) with
            | (place, true) => reach s (depth + 1) followed place rest
            | (place, false) => (place ++ rest, false)
      | _ => reach s depth followed (place ++ [name]) rest
termination_by (depth, names.length)

/-- A place with the dots in it worked out by the names alone. -/
def withoutDots (place : Place) : Place :=
  place.foldl (fun kept name =>
    if name = ['.'] then kept
    else if name = ['.', '.'] then kept.dropLast
    else kept ++ [name]) []

/-- The place that names lead to from a directory, as far as there is something on the way. -/
def reachFrom (s : Store) (place : Place) (names : List Text) : Place :=
  withoutDots (s.reach (s.linkCount + 1) [] place names).1

/-- The place that a path would lead to. Only its text can be refused. -/
def settle (s : Store) (p : Path) : Except Fault Place :=
  match (textFault? p.toText).filter Fault.isOfText with
  | some fault => .error fault
  | none => .ok (s.reachFrom (s.startOf p) p.parts)

/-- The place that a path would lead to, which must not go round in circles. -/
def resolve (s : Store) (p : Path) : Except Fault Place := do
  let place ← s.settle p
  match s.find place.toPath with
  | .error .linkLoop => throw .linkLoop
  | _ => return place

def read (s : Store) (p : Path) : Except Fault Bytes := do
  match ← s.find p with
  | .file content => return content
  | _ => throw .isDirectory

/-- Puts an entry at a place. -/
def setEntry (s : Store) (place : Place) (entry : Entry) : Store :=
  { s with entries := set s.entries }
where
  set : List (Place × Entry) → List (Place × Entry)
    | [] => [(place, entry)]
    | (k, e) :: rest => if k = place then (place, entry) :: rest else (k, e) :: set rest

/-- Creates a file or replaces its content. Its directory has to be there. -/
def write (s : Store) (p : Path) (content : Bytes) : Except Fault Store := do
  let place ← s.locate p
  match s.entry? place with
  | some .dir => throw .isDirectory
  | _ => return s.setEntry place (.file content)

/-- Creates one directory. A link at the end of the path is not followed. -/
def makeDir (s : Store) (p : Path) : Except Fault Store := do
  let place ← s.locateBy false p
  match s.entry? place with
  | some _ => throw .isThere
  | none => return s.setEntry place .dir

/-- Forgives that a directory cannot be created if it is there. -/
def orIsDir (s : Store) (p : Path) (fault : Fault) : Except Fault Unit := do
  if fault.isOfText then throw fault
  unless ← s.isDir p do throw fault

/-- Creates a directory that may be there already, and with it the directories on the way that
are missing. They stay if it cannot be created behind them. `depth` bounds their number. -/
def makeDirs (s : Store) (p : Path) (depth : Nat) : Store × Except Fault Unit :=
  match s.makeDir p with
  | .ok made => (made, .ok ())
  | .error .missing =>
    match depth with
    | 0 => (s, .error .missing)
    | depth + 1 =>
      if p.parts.isEmpty then (s, .error .missing)
      else
        match s.makeDirs p.parent depth with
        | (between, .error fault) => (between, .error fault)
        | (between, .ok ()) =>
          match between.makeDir p with
          | .ok made => (made, .ok ())
          | .error fault => (between, between.orIsDir p fault)
  | .error fault => (s, s.orIsDir p fault)

/-- Creates a directory with all directories on the way. -/
def makeWay (s : Store) (p : Path) : Store × Except Fault Unit :=
  s.makeDirs p p.parts.length

/-- The store with a directory and all directories on the way, if they can be created. -/
def ensureDir (s : Store) (p : Path) : Except Fault Store :=
  match s.makeWay p with
  | (made, .ok ()) => .ok made
  | (_, .error fault) => .error fault

/-- The names in a directory. -/
def namesIn (s : Store) (place : Place) : List Text :=
  s.entries.filterMap fun (k, _) =>
    if k.length = place.length + 1 && place.isPrefixOf k then k.getLast? else none

end Store

end DepView
