import DepView.Console.Emoji
import DepView.Console.Literal
import DepView.Console.Style
import DepView.Console.Styled
import DepView.Text.Word

/-!
Text with style tags in square brackets. A screen without styles shows the text and drops the tags.
A tag that closes a style has to follow one that opens it; a backslash before a tag makes it text.
-/

namespace DepView.Console.Markup

/-- A tag with the backslashes before it. -/
structure Tag where
  backslashes : Nat
  content : Text
deriving DecidableEq, Repr

def startsTag (c : Char) : Bool :=
  c.isLower || c == '#' || c == '/' || c == '@'

/-- Reads a tag: brackets around a text without brackets. -/
def tag? : Text → Option (Text × Text)
  | '[' :: c :: rest =>
    if startsTag c then
      match rest.dropWhile fun c => c != '[' && c != ']' with
      | ']' :: after => some (c :: rest.takeWhile (fun c => c != '[' && c != ']'), after)
      | _ => none
    else none
  | _ => none

theorem tag?_lt {text content rest : Text} (h : tag? text = some (content, rest)) :
    rest.length < text.length := by
  unfold tag? at h
  split at h
  · split at h
    · split at h
      · rename_i c tail _ _ after ha
        simp only [Option.some.injEq, Prod.mk.injEq] at h
        have hl := Text.length_dropWhile_le (fun c => c != '[' && c != ']') tail
        rw [ha] at hl
        simp only [List.length_cons] at hl ⊢
        rw [← h.2]
        omega
      · simp at h
    · simp at h
  · simp at h

def isBackslash (c : Char) : Bool :=
  c == '\\'

/-- Reads a tag and the backslashes before it. -/
def escapedTag? (text : Text) : Option (Tag × Text) :=
  (tag? (text.dropWhile isBackslash)).map fun (content, rest) =>
    (⟨(text.takeWhile isBackslash).length, content⟩, rest)

theorem escapedTag?_lt {text rest : Text} {found : Tag}
    (h : escapedTag? text = some (found, rest)) :
    rest.length < text.length := by
  obtain ⟨⟨content, after⟩, ht, hr⟩ := Option.map_eq_some_iff.1 h
  simp only [Prod.mk.injEq] at hr
  have hlt := tag?_lt ht
  have hle := Text.length_dropWhile_le isBackslash text
  rw [← hr.2]
  omega

def tagPattern : Text.Pattern Tag where
  match? := escapedTag?
  rest_lt := escapedTag?_lt

/-- Text between tags, where a bracket may have a backslash before it. -/
def unescape : Text → Text
  | [] => []
  | '\\' :: '[' :: rest => '[' :: unescape rest
  | c :: rest => c :: unescape rest

/-- A character that moves the cursor backwards, down or to the start of a line, or rings. -/
def isControl (c : Char) : Bool :=
  c == '\x07' || c == '\x08' || c == '\x0b' || c == '\x0c' || c == '\r'

/-- What is shown for a piece of text without tags. -/
def shown (text : Text) : Text :=
  (Emoji.replace (unescape text)).filter (!isControl ·)

inductive Fault where
  /-- A tag closes nothing. -/
  | nothingOpen
  /-- What a tag gives to a handler is no literal. -/
  | noLiteral
  /-- A part of a color is no number at all. -/
  | noNumber
deriving DecidableEq, Repr

/-- A style that is open: where it starts, its name, and what is behind an equals sign. -/
structure Opening where
  start : Nat
  name : Text
  extra : Option Text
deriving DecidableEq, Repr

namespace Opening

/-- Whether the tag names a handler in place of a style. -/
def isHandler (o : Opening) : Bool :=
  o.name.head? == some '@'

/-- The style in words. -/
def style (o : Opening) : Text :=
  match o.extra with
  | none => o.name
  | some extra => o.name ++ ' ' :: extra

/-- What is given to a handler: what stands in brackets behind its name, or all if that is not the
form. -/
def argument (extra : Text) : Text :=
  let given := Text.trim extra
  match given.dropWhile (fun c => Text.isWord c || c == '.') with
  | [] => ['(', ')']
  | '(' :: rest =>
    if rest.getLast? == some ')' && !rest.contains '\n' then '(' :: rest else given
  | _ => given

/-- The stretch of text that a style has, where it is closed. -/
def close (o : Opening) (stop : Nat) : Except Fault Span :=
  if o.isHandler then
    match o.extra with
    | none | some [] => .ok ⟨o.start, stop, []⟩
    | some extra =>
      if Literal.isLiteral (argument extra) then .ok ⟨o.start, stop, []⟩ else .error .noLiteral
  else .ok ⟨o.start, stop, o.style⟩

end Opening

/-- What has been read: the text that is shown, the styles that are open, the latest first, and the
stretches of those that are closed. -/
structure Reading where
  text : Text
  opened : List Opening
  spans : List Span

namespace Reading

def start : Reading := ⟨[], [], []⟩

def addText (r : Reading) (text : Text) : Reading :=
  { r with text := r.text ++ shown text }

/-- A style in the words in which it is always written. -/
def normal (name : Text) : Except Fault Text :=
  (Style.normal name).mapError fun _ => .noNumber

/-- Closes the latest style of a name, or the latest one at all if there is no name. -/
def close (r : Reading) (name : Text) : Except Fault Reading := do
  let isMeant ← if name.isEmpty then pure fun _ => true
    else do
      let name ← normal name
      pure fun (o : Opening) => o.name == name
  match r.opened.find? isMeant with
  | none => throw .nothingOpen
  | some o => do
    let span ← o.close r.text.length
    return { r with opened := r.opened.eraseP isMeant, spans := r.spans ++ [span] }

/-- Opens or closes what a tag says. -/
def addTag (r : Reading) (content : Text) : Except Fault Reading := do
  let name := content.takeWhile (· != '=')
  let extra := match content.dropWhile (· != '=') with
    | [] => none
    | _ :: extra => some extra
  match name with
  | '/' :: name => r.close (Text.trim name)
  | name => return { r with opened := ⟨r.text.length, ← normal name, extra⟩ :: r.opened }

/-- Reads a tag with the backslashes before it. -/
def addCut (r : Reading) (cut : Text × Tag) : Except Fault Reading := do
  let (before, tag) := cut
  let r := (r.addText before).addText (List.replicate (tag.backslashes / 2) '\\')
  if tag.backslashes % 2 = 1 then return r.addText ('[' :: tag.content ++ [']'])
  else r.addTag tag.content

/-- The text with its styles. One that is still open ends with the text. -/
def done (r : Reading) : Styled where
  text := r.text
  base := none
  spans := r.spans ++ r.opened.map fun o => ⟨o.start, r.text.length, o.style⟩

end Reading

/-- The text that markup stands for. -/
def read (text : Text) : Except Fault Styled := do
  let (cuts, last) := tagPattern.cutAll text
  let r ← cuts.foldlM Reading.addCut .start
  return (r.addText last).done

end DepView.Console.Markup
