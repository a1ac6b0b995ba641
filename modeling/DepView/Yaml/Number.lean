import DepView.Decimal.Typed
import DepView.Yaml.Fault
import DepView.Yaml.Tag

/-!
The numbers of YAML. Underscores do not count. A number with colons is written in base sixty, and a
whole number with a zero in front in base two, eight or sixteen.
-/

namespace DepView.Yaml.Number

def withoutLow (text : Text) : Text :=
  text.filter (· != '_')

/-- The value of some places of a number in base sixty. -/
def sixtieths (places : List Int) : Int :=
  places.foldl (fun n place => 60 * n + place) 0

def orFault {α : Type} : Option α → Except Fault α
  | some a => .ok a
  | none => .error (.scalar .notNumber)

def size (body : Text) : Except Fault Int :=
  match body with
  | [] => .error (.scalar .nothing)
  | '0' :: 'b' :: ds => orFault (Decimal.typedIntIn? 2 ds)
  | '0' :: 'x' :: ds => orFault (Decimal.typedIntIn? 16 ds)
  | '0' :: _ => orFault (if body == ['0'] then some 0 else Decimal.typedIntIn? 8 body)
  | body =>
    if body.contains ':' then
      orFault (((Text.splitAt ':' body).mapM Decimal.typedInt?).map sixtieths)
    else orFault (Decimal.typedInt? body)

def intOf (text : Text) : Except Fault Int :=
  let body := withoutLow text
  if body.isEmpty then .error (.scalar .nothing)
  else (size (Tag.unsigned body)).map fun n => if body.head? == some '-' then -n else n

/-- The value of the places of a number in base sixty. They are added up from the last to the first,
and there may be no more than a power of sixty has a place in the numbers. -/
def floatSixtieths (places : List Float) : Except Fault Float :=
  let scales := (List.range places.length).map fun n => Decimal.nearest false (Nat.pow 60 n) 0
  if scales.any Float.isInf then .error (.scalar .tooLarge)
  else .ok ((places.reverse.zip scales).foldl (fun sum (place, scale) => sum + place * scale) 0.0)

def floatSize (body : Text) : Except Fault Float :=
  match String.ofList body with
  | ".inf" => .ok (1.0 / 0.0)
  | ".nan" => .ok (0.0 / 0.0)
  | _ =>
    if body.contains ':' then do
      floatSixtieths (← orFault ((Text.splitAt ':' body).mapM Decimal.typedFloat?))
    else orFault (Decimal.typedFloat? body)

def floatOf (text : Text) : Except Fault Float :=
  let body := (withoutLow text).map Char.toLower
  if body.isEmpty then .error (.scalar .nothing)
  else (floatSize (Tag.unsigned body)).map fun x => if body.head? == some '-' then -x else x

end DepView.Yaml.Number
