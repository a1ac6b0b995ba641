import DepView.Json.Writer
import DepView.Layout.Basic
import DepView.Page.Template
import DepView.Text.Scan

/-!
The viewer page and its configuration: which graph to load at first, where to ask for graphs and
for syntax trees, and a laid out graph if one is to be embedded. The configuration stands in a
script, so it must not hold what would end the script.
-/

namespace DepView.Page

structure Config where
  defaultDot : Text
  graphEndpoint : Text
  overlayEndpoint : Text
  layout : Option Layout

/-- The configuration with the endpoints of the server. -/
def Config.of (defaultDot : Text) (layout : Option Layout) : Config :=
  { defaultDot, layout
    graphEndpoint := "/api/graph".toList
    overlayEndpoint := "/api/overlay".toList }

def elementsJson (layout : Layout) : Json :=
  .arr (layout.elements.map Element.toJson)

def Config.toJson (c : Config) : Json :=
  .record [("defaultDot", .str c.defaultDot), ("graphEndpoint", .str c.graphEndpoint),
    ("overlayEndpoint", .str c.overlayEndpoint),
    ("elements", (c.layout.map elementsJson).getD .null),
    ("layout", (c.layout.map Layout.options).getD .null)]

/-- A backslash goes between a less-than sign and a slash. -/
def guardClosing : Text → Text
  | [] => []
  | '<' :: '/' :: rest => '<' :: '\\' :: '/' :: guardClosing rest
  | c :: rest => c :: guardClosing rest

/-- The configuration as it stands in the script. -/
def payload (config : Json) : Text :=
  guardClosing config.compact

theorem placeholder_ne_nil : placeholder ≠ [] := by
  decide +kernel

/-- The page for a configuration. -/
def render (config : Json) : Text :=
  let pattern := Text.Pattern.exactly placeholder placeholder_ne_nil
  pattern.replaceAll (fun _ => payload config) template

end DepView.Page
