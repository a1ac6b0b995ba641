import DepView.Server.Url

/-!
Requests to the viewer's server: a method, the path that is asked for, and the query, which names
fields and their values percent-encoded.
-/

namespace DepView.Server

structure Request where
  method : Text
  /-- What stands before the path in the URLs of the server. -/
  origin : Text
  path : Text
  query : Text
deriving DecidableEq, Repr

namespace Request

def ofUrl (method : Text) (url : Url) : Request :=
  { method := method.map Char.toUpper, origin := url.origin
    path := url.pathText, query := url.query.getD [] }

/-- A name or a value in a query. A plus sign is a blank. -/
def queryText (text : Text) : Text :=
  Url.decoded (text.map fun c => if c == '+' then ' ' else c)

/-- The fields of the query. -/
def fields (r : Request) : List (Text × Text) :=
  ((Text.splitAt '&' r.query).filter (!·.isEmpty)).map fun field =>
    (queryText (field.takeWhile (· != '=')), queryText ((field.dropWhile (· != '=')).drop 1))

/-- The value of a field. The last one counts. -/
def field? (r : Request) (name : String) : Option Text :=
  r.fields.reverse.lookup name.toList

def isUrlSafe (c : Char) : Bool :=
  c.isAlphanum || "-._~!$&'()*+,;=:/?#[]@%".toList.contains c

/-- The URL of another path with the same query. -/
def urlOf (r : Request) (path : Text) : Text :=
  Text.Percent.encode isUrlSafe
    (r.origin ++ if r.query.isEmpty then path else path ++ '?' :: r.query)

end Request

end DepView.Server
