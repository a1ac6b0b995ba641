import DepView.Decimal.Binary
import DepView.Decimal.Literal
import DepView.Settings.Basic
import DepView.Text.Blank
import DepView.Text.Scan
import DepView.Yaml.Value

/-!
Settings from values of other kinds. Numbers may be written as texts, truth values count as one and
zero, and some words count as truth values; bytes count as the text that they encode, and a text is
never made of anything else. Members that are not known are passed over, and one that does not fit
spoils the whole.
-/

namespace DepView.Settings

open Text

open Yaml (Value)

/-- A text without the white space around it. -/
def trimSpace (text : Text) : Text :=
  trimWhile isSpace text

/-- A text without the underscores in it, if there are some, none at its ends and no two next to
each other. -/
def withoutUnderscores? (text : Text) : Option Text :=
  let pieces := splitAt '_' text
  if text.contains '_' && pieces.all (!·.isEmpty) then some pieces.flatten else none

def floatOfText? (text : Text) : Option Float :=
  match Decimal.floatLiteral? (trimSpace text) with
  | some x => some x
  | none => (withoutUnderscores? text).bind Decimal.floatLiteral?

/-- A whole number from behind the zeros in front of it. Underscores may stand between those, and
even a minus behind them. -/
def pastZeros? : Text → Option Text
  | '0' :: rest => pastMore rest
  | c :: rest => if ('1' ≤ c && c ≤ '9') || c == '-' then some (c :: rest) else none
  | [] => none
where
  pastMore : Text → Option Text
    | [] => some ['0']
    | ['_'] => some ['_']
    | '0' :: rest => pastMore rest
    | '_' :: '.' :: rest => some ('_' :: '.' :: rest)
    | '_' :: rest => pastMore rest
    | '.' :: rest => some ('0' :: '.' :: rest)
    | c :: rest => if ('1' ≤ c && c ≤ '9') || c == '-' then some (c :: rest) else none

/-- A text without a point and the zeros behind it, of which there has to be one. -/
def withoutPoint (text : Text) : Text :=
  let zeros := (text.dropWhile (· != '.')).drop 1
  if !zeros.isEmpty && zeros.all (· == '0') then text.takeWhile (· != '.') else text

/-- A whole number with or without a minus. It starts with a zero only if it has no other digit. -/
def strictInt? (text : Text) : Option Int :=
  let digits := if text.head? == some '-' then text.drop 1 else text
  if text.head? == some '+' || (digits.head? == some '0' && digits.length != 1) ||
      Decimal.maxDigits < digits.length then none
  else Decimal.intLiteral? text

def intOfText? (text : Text) : Option Int := do
  let (sign, body) ← match trimSpace text with
    | '+' :: '-' :: _ => none
    | '+' :: body => some ([], body)
    | '-' :: body => some (['-'], body)
    | body => some ([], body)
  let body := withoutPoint (← pastZeros? body)
  strictInt? (sign ++ (withoutUnderscores? body).getD body)

/-- A float that is a whole number in the range of 64 bits. -/
def intOfFloat? (x : Float) : Option Int :=
  match Decimal.parts x with
  | (negative, .finite m q) =>
    let (num, den) := Decimal.scaled m 2 q
    let n := num / den
    if num % den == 0 && n < Nat.pow 2 63 then some (if negative then -(n : Int) else n) else none
  | _ => none

/-- The float nearest to a whole number, if it is in range. -/
def floatOfInt? (n : Int) : Option Float :=
  let x := Decimal.nearest (n < 0) n.natAbs 0
  if x.isInf then none else some x

def asFloat? : Value → Option Float
  | .num x => some x
  | .int n => floatOfInt? n
  | .bool b => some (if b then 1.0 else 0.0)
  | .text s => floatOfText? s
  | .bytes b => (Text.Utf8.decode? b).bind floatOfText?
  | _ => none

def asInt? : Value → Option Int
  | .int n => some n
  | .num x => intOfFloat? x
  | .bool b => some (if b then 1 else 0)
  | .text s => intOfText? s
  | .bytes b => (Text.Utf8.decode? b).bind intOfText?
  | _ => none

def truthOfInt? : Int → Option Bool
  | 0 => some false
  | 1 => some true
  | _ => none

def truthOfText? (text : Text) : Option Bool :=
  let word := String.ofList (text.map Char.toLower)
  if ["1", "on", "t", "true", "y", "yes"].contains word then some true
  else if ["0", "off", "f", "false", "n", "no"].contains word then some false
  else none

def asBool? : Value → Option Bool
  | .bool b => some b
  | .int n => truthOfInt? n
  | .num x => (intOfFloat? x).bind truthOfInt?
  | .text s => truthOfText? s
  | .bytes b => (Text.Utf8.decode? b).bind truthOfText?
  | _ => none

def asText? : Value → Option Text
  | .text s => some s
  | .bytes b => Text.Utf8.decode? b
  | _ => none

/-- A path is never made of bytes. -/
def asPath? : Value → Option Path
  | .text s => some (Path.ofText s)
  | _ => none

/-- A member in the form it is needed in, or the default where it is missing. -/
def field {α : Type} (value : Value) (name : String) (standard : α) (read : Value → Option α) :
    Option α :=
  match value.member? name with
  | none => some standard
  | some v => read v

def radialOf? (value : Value) : Option RadialSettings :=
  match value with
  | .table _ => do
    let d := RadialSettings.standard
    return { centerX := ← field value "center_x" d.centerX asFloat?
             centerY := ← field value "center_y" d.centerY asFloat?
             radiusPerNode := ← field value "radius_per_node" d.radiusPerNode asFloat?
             minRadius := ← field value "min_radius" d.minRadius asFloat?
             maxRadius := ← field value "max_radius" d.maxRadius asFloat? }
  | _ => none

def hierarchyOf? (value : Value) : Option HierarchySettings :=
  match value with
  | .table _ => do
    let d := HierarchySettings.standard
    return { rankDir := ← field value "rank_dir" d.rankDir asText?
             nodeSep := ← field value "node_sep" d.nodeSep asFloat?
             rankSep := ← field value "rank_sep" d.rankSep asFloat?
             edgeSep := ← field value "edge_sep" d.edgeSep asFloat? }
  | _ => none

/-- The settings of a table, with defaults for what it does not mention. -/
def ofValue? (value : Value) : Option Settings :=
  match value with
  | .table _ => do
    let d := Settings.standard
    return { port := ← field value "port" d.port asInt?
             dependsJar := ← field value "depends_jar" d.dependsJar asPath?
             java := ← field value "java" d.java asText?
             outputName := ← field value "depends_output_name" d.outputName asText?
             openBrowser := ← field value "open_browser" d.openBrowser asBool?
             radial := ← field value "radial" d.radial radialOf?
             hierarchy := ← field value "hierarchy" d.hierarchy hierarchyOf? }
  | _ => none

end DepView.Settings
