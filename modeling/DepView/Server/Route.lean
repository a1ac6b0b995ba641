import DepView.Overlay.Location

/-!
The routes of the viewer's server. A path may have a line feed at its end and still be that of a
route. What is behind the route of the artifacts names a file.
-/

namespace DepView.Server

inductive Route where
  | description
  | explorer
  | loginReturn
  | reference
  | index
  | health
  | graph
  | overlay
  | artifact (path : Text)
deriving DecidableEq, Repr

namespace Route

/-- The routes with one path each, and their methods. -/
def fixed : List (String × Route × List String) :=
  [("/openapi.json", description, ["GET", "HEAD"]),
   ("/docs", explorer, ["GET", "HEAD"]),
   ("/docs/oauth2-redirect", loginReturn, ["GET", "HEAD"]),
   ("/redoc", reference, ["GET", "HEAD"]),
   ("/", index, ["GET"]),
   ("/health", health, ["GET"]),
   ("/api/graph", graph, ["GET"]),
   ("/api/overlay", overlay, ["GET", "DELETE"])]

/-- The file that a path behind the route of the artifacts names. With a line feed at its end the
path counts as a whole, unless it starts with a slash of its own. -/
def artifactPath? (path : Text) : Option Text := do
  let rest ← Text.after? (Overlay.artifactRoute ++ ['/']) path
  if rest.contains '\n' then
    if rest.dropLast.contains '\n' || rest.getLast? != some '\n' then none
    else if rest.head? == some '/' then some rest
    else some path
  else some rest

/-- The route of a path, and its methods. -/
def ofPath? (path : Text) : Option (Route × List String) :=
  match fixed.find? fun (text, _) => path == text.toList || path == text.toList ++ ['\n'] with
  | some (_, route, methods) => some (route, methods)
  | none => (artifactPath? path).map fun file => (artifact file, ["GET", "HEAD"])

/-- The path with a slash at its end, or without if it has some. -/
def otherPath (path : Text) : Text :=
  if path.getLast? == some '/' then Text.trimEndWhile (· == '/') path else path ++ ['/']

end Route

end DepView.Server
