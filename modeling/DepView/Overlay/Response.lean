import DepView.Overlay.ContentType

/-!
The answer of a server to a request for an artifact, and the text in it. Only a status from 200
to 299 has one. It is UTF-8 unless the type of the content names another character set.
-/

namespace DepView.Overlay

structure Response where
  status : Nat
  body : Bytes
  contentType : Option Text
deriving DecidableEq, Repr

namespace Response

/-- The character set of the text. One that is not known counts as none. -/
def charset (r : Response) : Except Failure Charset := do
  match r.contentType with
  | none => return .utf8
  | some contentType =>
    match ← ContentType.charset? contentType with
    | none => return .utf8
    | some name =>
      match Charset.lookup name with
      | .ok set => return set.getD .utf8
      | .error fault => .error (.badCharset fault)

/-- The text, where all that means nothing is replaced. An empty one is in no character set. -/
def decode (r : Response) : Except Failure Text := do
  if r.body.isEmpty then return []
  match (← r.charset).read r.body with
  | .ok text => return text
  | .error fault => .error (.badCharset fault)

/-- The text of the answer, if it has one. The type of a content is written in ASCII. -/
def text? (r : Response) : Except Failure (Option Text) :=
  if (r.contentType.getD []).any fun c => 0x80 ≤ c.toNat then .error .unencodable
  else if 200 ≤ r.status && r.status < 300 then r.decode.map some
  else .ok none

end Response

end DepView.Overlay
