import DepView.Json.Writer
import DepView.Store.Path
import DepView.Text.Utf8

/-!
Replies of the viewer's server: a status, what is sent along, and where to look instead. JSON has no
numbers without end, so null stands for those.
-/

namespace DepView.Server

inductive Content where
  | nothing
  | json (value : Json)
  | page (html : Text)
  | file (name : Text) (bytes : Bytes)

namespace Content

/-- The end of a name from its last dot on. The dots that a name starts with do not count. -/
def ending (name : Text) : Text :=
  let dots := name.takeWhile (· == '.')
  let rest := name.drop dots.length
  if rest.contains '.' then '.' :: Text.lastPiece (· == '.') rest else []

def isPacked (ending : Text) : Bool :=
  [".gz", ".Z", ".bz2", ".xz", ".br"].contains (String.ofList ending)

/-- Whether a file has JSON in it, packed or not, as its name says. -/
def isJsonName (name : Text) : Bool :=
  let last := ending name
  let last := if isPacked last then ending (name.take (name.length - last.length)) else last
  last.map Char.toLower == ".json".toList

end Content

structure Reply where
  status : Nat
  content : Content
  location : Option Text

namespace Reply

def ok (content : Content) : Reply :=
  ⟨200, content, none⟩

mutual

/-- A value with null for every number that JSON has not. -/
def bounded : Json → Json
  | .num x => if x.isFinite then .num x else .null
  | .arr items => .arr (boundedItems items)
  | .obj members => .obj (boundedMembers members)
  | v => v

def boundedItems : List Json → List Json
  | [] => []
  | item :: rest => bounded item :: boundedItems rest

def boundedMembers : List (Text × Json) → List (Text × Json)
  | [] => []
  | (name, value) :: rest => (name, bounded value) :: boundedMembers rest

end

def json (value : Json) : Reply :=
  ok (.json (bounded value))

def page (html : String) : Reply :=
  ok (.page html.toList)

/-- A refusal with its reason. -/
def refusal (status : Nat) (reason : Text) : Reply :=
  ⟨status, .json (.record [("detail", .str reason)]), none⟩

def notFound : Reply :=
  refusal 404 "Not Found".toList

def notAllowed : Reply :=
  refusal 405 "Method Not Allowed".toList

def redirect (url : Text) : Reply :=
  ⟨307, .nothing, some url⟩

/-- The reply as it answers a request for the head alone. -/
def headOnly (r : Reply) : Reply :=
  { r with content := .nothing }

/-- The bytes that are sent. -/
def body (r : Reply) : Bytes :=
  match r.content with
  | .nothing => []
  | .json value => Text.Utf8.encode value.compact
  | .page html => Text.Utf8.encode html
  | .file _ bytes => bytes

end Reply

end DepView.Server
