import DepView.Decimal.Typed
import DepView.Domain.Label
import DepView.Failure
import DepView.Server.Address
import DepView.Text.Lower
import DepView.Text.Percent

/-!
URLs. A URL has a scheme and a host, or it is relative to those of the server. Its parts are kept
percent-encoded where they have to be, a host is kept in ASCII, and a path is kept without the
segments that point at others.
-/

namespace DepView.Server

structure Url where
  scheme : Text
  /-- The host in small letters. An address of version 6 has no brackets here. -/
  host : Text
  port : Option Int
  path : Text
  query : Option Text
  fragment : Option Text
deriving DecidableEq, Repr

namespace Url

/-- The parts of a URL as they are written. -/
structure Parts where
  scheme : Text
  user : Text
  host : Text
  port : Text
  path : Text
  query : Option Text
  fragment : Option Text
deriving DecidableEq, Repr

def isSchemeChar (c : Char) : Bool :=
  c.isAlphanum || "+.-".toList.contains c

/-- The scheme before the first colon, if one starts there, and the text behind it. -/
def splitScheme (url : Text) : Text × Text :=
  let scheme := url.takeWhile isSchemeChar
  match url.drop scheme.length with
  | ':' :: rest =>
    if scheme.isEmpty || scheme.head?.any Char.isAlpha then (scheme, rest) else ([], url)
  | _ => ([], url)

/-- The host at the head of a text, in brackets or up to a colon, and the text behind it. -/
def splitHost (text : Text) : Text × Text :=
  let bracketed := text.reverse.dropWhile (· != ']') |>.reverse
  if text.head? == some '[' && !bracketed.isEmpty then (bracketed, text.drop bracketed.length)
  else (text.takeWhile (· != ':'), text.dropWhile (· != ':'))

/-- The part behind a mark, up to where one of some characters stands. -/
def splitMarked (mark : Char) (ends : Char → Bool) (text : Text) : Option Text × Text :=
  match text with
  | c :: rest =>
    if c == mark then (some (rest.takeWhile (!ends ·)), rest.dropWhile (!ends ·)) else (none, text)
  | [] => (none, [])

def Parts.ofText (url : Text) : Parts :=
  let (scheme, rest) := splitScheme url
  let isPlaceEnd (c : Char) : Bool := c == '/' || c == '?' || c == '#'
  let (authority, rest) := match rest with
    | '/' :: '/' :: rest => (rest.takeWhile (!isPlaceEnd ·), rest.dropWhile (!isPlaceEnd ·))
    | rest => ([], rest)
  let isPathEnd (c : Char) : Bool := c == '?' || c == '#'
  let path := rest.takeWhile (!isPathEnd ·)
  let (query, rest) := splitMarked '?' (· == '#') (rest.dropWhile (!isPathEnd ·))
  let (fragment, _) := splitMarked '#' (fun _ => false) rest
  let place := Text.lastPiece (· == '@') authority
  let (host, behind) := splitHost place
  { scheme, host, path, query, fragment
    user := authority.take (authority.length - place.length - 1)
    port := if behind.head? == some ':' then behind.drop 1 else behind }

/-- The most characters that a URL or one of its parts can have. -/
def maxLength : Nat := 65536

/-- A control character of ASCII. -/
def isControl (c : Char) : Bool :=
  c.toNat < 32 || c.toNat == 127

/-- Whether a part keeps to the length and to the characters that there may be. -/
def isSound (part : Text) : Bool :=
  part.length ≤ maxLength && !part.any isControl

/-- A printable ASCII character that is none of some. -/
def isPlain (others : String) (c : Char) : Bool :=
  32 < c.toNat && c.toNat < 127 && !others.toList.contains c

def isPathSafe : Char → Bool := isPlain "\"#<>?`\x7b\x7d"

def isQuerySafe : Char → Bool := isPlain "\"#<>"

def isFragmentSafe : Char → Bool := isPlain "\"<>`"

def isHostSafe (c : Char) : Bool :=
  c.isAlphanum || "-._~!$&'()*+,;=\"`\x7b\x7d%|\\".toList.contains c

/-- A part with its other characters percent-encoded. -/
def encoded (isSafe : Char → Bool) (part : Text) : Except Failure Text :=
  if Text.holdsSurrogate part then .error .unencodable else .ok (Text.Percent.encode isSafe part)

/-- The host as it is kept. -/
def hostOf (written : Text) : Except Failure Text :=
  let inside := (written.drop 1).dropLast
  if Address.looksVersion4 written then
    if Address.isVersion4 written then .ok written else .error .badUrl
  else if written.head? == some '[' && written.getLast? == some ']' then
    if Address.isVersion6 inside then .ok inside else .error .badUrl
  else if written.all (·.toNat < 128) then
    .ok (Text.Percent.encode isHostSafe (written.map Char.toLower))
  else match Domain.toAscii (Text.lower written) with
    | .ok host => .ok host
    | .error _ => .error .badUrl

/-- The port that needs no mention. -/
def standardPort? (scheme : Text) : Option Int :=
  [("ftp", 21), ("http", 80), ("https", 443), ("ws", 80), ("wss", 443)].lookup
    (String.ofList scheme)

def portOf (scheme written : Text) : Except Failure (Option Int) :=
  if written.isEmpty then .ok none
  else match Decimal.typedInt? written with
    | none => .error .badUrl
    | some port => .ok (if standardPort? scheme == some port then none else some port)

/-- The segments of a path without those that only point at others. -/
def withoutDots (kept : List Text) : List Text → List Text
  | [] => kept
  | ['.'] :: rest => withoutDots kept rest
  | ['.', '.'] :: rest => withoutDots (if kept == [[]] then kept else kept.dropLast) rest
  | segment :: rest => withoutDots (kept ++ [segment]) rest

def straightened (path : Text) : Text :=
  Text.join ['/'] (withoutDots [] (Text.splitAt '/' path))

/-- Whether a path can stand behind what there is of a scheme and a place. -/
def pathFits (hasScheme hasPlace : Bool) (path : Text) : Bool :=
  if hasPlace then path.isEmpty || path.head? == some '/'
  else hasScheme || !(path.take 2 == ['/', '/'] || path.head? == some ':')

def ofParts (p : Parts) : Except Failure Url := do
  discard (encoded (fun _ => true) p.user)
  let host ← hostOf p.host
  let port ← portOf p.scheme p.port
  let hasScheme := !p.scheme.isEmpty
  let hasPlace := !p.user.isEmpty || !host.isEmpty || port.isSome
  if !pathFits hasScheme hasPlace p.path then throw .badUrl
  return {
    scheme := p.scheme.map Char.toLower, host, port
    path := ← encoded isPathSafe (if hasScheme || hasPlace then straightened p.path else p.path)
    query := ← p.query.mapM (encoded isQuerySafe)
    fragment := ← p.fragment.mapM (encoded isFragmentSafe) }

/-- The URL that a text stands for, relative or not. -/
def read (text : Text) : Except Failure Url :=
  if isSound text then ofParts (.ofText text) else .error .badUrl

/-- A URL on the server at a host that is asked for with plain HTTP. Only its path and its query
count, unless it names a scheme and a host itself. -/
def onServer (host : Text) (text : Text) : Except Failure Url := do
  let url ← read text
  if !url.scheme.isEmpty && !url.host.isEmpty then return url
  let path := '/' :: url.path.dropWhile (· == '/')
  if !isSound path || !isSound (url.query.getD []) then throw .badUrl
  ofParts { scheme := "http".toList, user := [], host, port := [], path, query := url.query
            fragment := none }

/-- The host and the port as a request names them. -/
def place (u : Url) : Text :=
  (if u.host.contains ':' then '[' :: u.host ++ [']'] else u.host) ++
    match u.port with
    | none => []
    | some port => ':' :: (toString port).toList

/-- Whether a host that is written like one in another script is one. -/
def checkHost (u : Url) : Except Failure Unit :=
  if (Text.after? Domain.Label.mark u.host).isSome then
    match Domain.checkAscii u.host with
    | .ok () => .ok ()
    | .error fault => .error (.badHost fault)
  else .ok ()

/-- What stands before the path. -/
def origin (u : Url) : Text :=
  u.scheme ++ "://".toList ++ u.place

/-- The text that a percent-encoded part stands for. -/
def decoded (part : Text) : Text :=
  Text.Utf8.decodeLossy (Text.Percent.decode part)

/-- The path that is asked for. There is always one. -/
def pathText (u : Url) : Text :=
  match decoded u.path with
  | [] => ['/']
  | path => path

end Url

end DepView.Server
