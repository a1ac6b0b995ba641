import DepView.Graph.Record
import DepView.Overlay.Panel
import DepView.Overlay.Response
import DepView.Page.Config
import DepView.Server.Documentation
import DepView.Server.Reply
import DepView.Server.Request
import DepView.Server.Route
import DepView.Session

/-!
The viewer's server: the page, the graphs, the overlay and the artifacts of one directory. Nothing
outside the directory is handed out. The overlay finds its artifacts by requests to this very
server, so it sees what a browser would see.
-/

namespace DepView.Server

/-- A server for a directory. -/
structure App where
  directory : Place
  defaultDot : Text
  settings : Settings
  panel : Overlay.Panel

namespace App

/-- A place that has to be known, whatever is there. -/
def resolve (store : Store) (path : Path) : Except Failure Place :=
  match store.resolve path with
  | .ok place => .ok place
  | .error .linkLoop => .error .linksInCircle
  | .error fault => .error (.file fault)

/-- A server needs a directory that is there. -/
def start (store : Store) (directory : Path) (defaultDot : Text) (settings : Settings) :
    Except Failure App := do
  let place ← resolve store directory
  match store.isDir place.toPath with
  | .ok true => return ⟨place, defaultDot, settings, .initial settings.hierarchy .page⟩
  | _ => throw .noDirectory

/-- The content of an artifact with a name, or the reply if there is none. -/
def artifact (app : App) (store : Store) (name : Text) : Except Failure (Except Reply Bytes) := do
  let place ← resolve store
    (app.directory.toPath / Path.ofText (name.dropWhile (· == '/')))
  if !app.directory.isPrefixOf place then
    return .error (.refusal 400 ("Invalid graph path: ".toList ++ name))
  match store.find place.toPath with
  | .ok (.file bytes) => return .ok bytes
  | .error .nameTooLong => throw (.file .nameTooLong)
  | _ =>
    return .error (.refusal 404 ("Failed to load DOT file: ".toList ++ name ++ " not found".toList))

/-- A graph with its radial layout. -/
def graphReply (app : App) (store : Store) (name : Text) : Except Failure Reply := do
  match ← app.artifact store name with
  | .error reply => return reply
  | .ok bytes =>
    let (dialect, g) := Graph.read (Text.foldNewlines (Text.Utf8.decodeLossy bytes))
    let layout := Layout.radial app.settings.radial g
    return .json (.record [("dot", .str name), ("dialect", .ofString dialect.name),
      ("elements", Page.elementsJson layout), ("layout", layout.options),
      ("stats", g.stats.toJson)])

/-- The names of a path in the artifact route, with what points at others worked out. -/
def fileNames (kept : List Text) : List Text → List Text
  | [] => kept
  | name :: rest =>
    if name.isEmpty || name == ['.'] then fileNames kept rest
    else if name == ['.', '.'] && !kept.isEmpty && kept.getLast? != some ['.', '.'] then
      fileNames kept.dropLast rest
    else fileNames (kept ++ [name]) rest

/-- A file of the directory, as it is. A name that starts with a backslash is refused like a path
from the root. -/
def fileReply (app : App) (store : Store) (path : Text) : Except Failure Reply :=
  let names := fileNames [] (Text.splitAt '/' path)
  let place := store.reachFrom app.directory names
  if names.any (·.contains '\x00') || names.head?.any (·.head? == some '\\') ||
      !app.directory.isPrefixOf place then .ok .notFound
  else match store.find place.toPath with
    | .ok (.file bytes) => .ok (.ok (.file (place.getLast?.getD []) bytes))
    | .error .linkLoop => .error (.file .linkLoop)
    | _ => .ok .notFound

/-- What is wrong with a field of a query. -/
def fieldFault (kind message : String) (value : Json) (more : List (String × Json)) : Reply :=
  ⟨422, .json (.record [("detail", .arr [.record ([("type", .ofString kind),
    ("loc", .arr [.ofString "query", .ofString "node"]), ("msg", .ofString message),
    ("input", value)] ++ more)])]), none⟩

/-- The reply to what the overlay has no part in. -/
def look (app : App) (store : Store) (r : Request) : Route → Except Failure Reply
  | .description => .ok (.json (Documentation.description app.defaultDot))
  | .explorer => .ok (.page Documentation.explorer)
  | .loginReturn => .ok (.page Documentation.loginReturn)
  | .reference => .ok (.page Documentation.reference)
  | .index => .ok (.ok (.page (Page.render (Page.Config.of app.defaultDot none).toJson)))
  | .health => .ok (.json (.record [("status", .ofString "online"),
      ("artifact_dir", .str app.directory.toPath.toText)]))
  | .graph => app.graphReply store ((r.field? "dot").getD app.defaultDot)
  | .overlay => .ok .notFound
  | .artifact path => app.fileReply store path

/-- The reply for a path without a route. It may have one with a slash more or less at its end. -/
def strayReply (r : Request) : Reply :=
  if r.path != ['/'] && (Route.ofPath? (Route.otherPath r.path)).isSome then
    .redirect (r.urlOf (Route.otherPath r.path))
  else .notFound

/-- The text at a location, as a search asks for it. -/
def fetch (app : App) (store : Store) (location : Text) : Except Failure (Option Text) := do
  let r := Request.ofUrl "GET".toList (← Url.onServer "dtsviz.local".toList location)
  let reply ← match Route.ofPath? r.path with
    | some (route, _) => app.look store r route
    | none => pure (strayReply r)
  (Overlay.Response.mk reply.status reply.body none).text?

/-- Loads a node into the overlay. -/
def overlayReply (app : App) (store : Store) (node : Option Text) : App × Except Failure Reply :=
  match node with
  | none => (app, .ok (fieldFault "missing" "Field required" .null []))
  | some [] =>
    (app, .ok (fieldFault "string_too_short" "String should have at least 1 character" (.str [])
      [("ctx", .record [("min_length", .ofNat 1)])]))
  | some node =>
    let (panel, shot) := app.panel.tryLoad Overlay.generators (app.fetch store) node
    ({ app with panel }, shot.map fun shot => .json shot.toJson)

/-- Answers a request. A failure leaves the overlay as far as it came. -/
def handle (app : App) (store : Store) (r : Request) : App × Except Failure Reply :=
  match Route.ofPath? r.path with
  | none => (app, .ok (strayReply r))
  | some (route, methods) =>
    let method := String.ofList r.method
    if !methods.contains method then (app, .ok .notAllowed)
    else match route, method with
      | .overlay, "DELETE" =>
        let panel := app.panel.dismiss
        ({ app with panel }, .ok (.json panel.snapshot.toJson))
      | .overlay, _ => app.overlayReply store (r.field? "node")
      | route, "HEAD" => (app, (app.look store r route).map Reply.headOnly)
      | route, _ => (app, app.look store r route)

/-- A visitor follows no redirection, but looks whether the part of the page that was asked for can
be asked for at the other URL. -/
def checkFragment (url : Url) (reply : Reply) : Except Failure Reply :=
  if reply.location.isSome && !Url.isSound (Url.decoded (url.fragment.getD [])) then
    .error .badUrl
  else .ok reply

/-- What a visitor sees who asks for a URL of a server at some host. -/
def visit (app : App) (store : Store) (host method url : Text) : App × Except Failure Reply :=
  match Url.onServer host url with
  | .error failure => (app, .error failure)
  | .ok url =>
    match url.checkHost with
    | .error failure => (app, .error failure)
    | .ok () =>
      let (app, reply) := app.handle store (Request.ofUrl method url)
      (app, reply.bind (checkFragment url))

end App

end DepView.Server
