import DepView.Decimal.Literal

/-!
Dates and times as a YAML scalar writes them: a day, or a day and a time with an optional fraction
of a second and an optional time zone.
-/

namespace DepView.Yaml

/-- A time of the day, with the minutes between it and universal time. -/
structure Clock where
  hour : Nat
  minute : Nat
  second : Nat
  zone : Nat
deriving DecidableEq, Repr

structure Date where
  year : Nat
  month : Nat
  day : Nat
  clock : Option Clock
deriving DecidableEq, Repr

namespace Date

/-- A number with a count of digits within bounds, and what follows it. -/
def number? (least most : Nat) (text : Text) : Option (Nat × Text) :=
  let ds := text.takeWhile Char.isDigit
  if least ≤ ds.length && ds.length ≤ most then some (Decimal.natOfDigits ds, text.drop ds.length)
  else none

/-- A number behind a sign. -/
def numberAfter? (sign : Char) (least most : Nat) : Text → Option (Nat × Text)
  | c :: text => if c == sign then number? least most text else none
  | [] => none

/-- The time zone at the end, in minutes. Which direction it is does not matter. -/
def zone? (text : Text) : Option Nat :=
  match text.dropWhile fun c => c == ' ' || c == '\t' with
  | ['Z'] => some 0
  | sign :: rest => do
    if sign != '+' && sign != '-' then none
    else
      let (hours, rest) ← number? 1 2 rest
      if rest.isEmpty then some (60 * hours)
      else match ← numberAfter? ':' 2 2 rest with
        | (minutes, []) => some (60 * hours + minutes)
        | _ => none
  | [] => none

def clock? (text : Text) : Option Clock := do
  let (hour, rest) ← number? 1 2 text
  let (minute, rest) ← numberAfter? ':' 2 2 rest
  let (second, rest) ← numberAfter? ':' 2 2 rest
  let rest := match rest with
    | '.' :: rest => rest.dropWhile Char.isDigit
    | rest => rest
  if rest.isEmpty then some ⟨hour, minute, second, 0⟩
  else (zone? rest).map (⟨hour, minute, second, ·⟩)

/-- What separates a day from a time. -/
def afterDay? : Text → Option Text
  | 'T' :: rest | 't' :: rest => some rest
  | ' ' :: rest | '\t' :: rest => some (rest.dropWhile fun c => c == ' ' || c == '\t')
  | _ => none

/-- The date that a text says. A line feed at its end does not matter. -/
def ofText? (text : Text) : Option Date := do
  let text := if text.getLast? == some '\n' then text.dropLast else text
  let (year, rest) ← number? 4 4 text
  let (month, rest) ← numberAfter? '-' 1 2 rest
  let (day, rest) ← numberAfter? '-' 1 2 rest
  if rest.isEmpty then some ⟨year, month, day, none⟩
  else (clock? (← afterDay? rest)).map fun clock => ⟨year, month, day, some clock⟩

/-- Whether a text says by itself that it is a date. A day without time has two digits in month
and day. -/
def isPlain (text : Text) : Bool :=
  match ofText? text with
  | some date => date.clock.isSome || text.length == 10
  | none => false

def daysIn (year month : Nat) : Nat :=
  if month == 2 then if (year % 4 == 0 && year % 100 != 0) || year % 400 == 0 then 29 else 28
  else if [4, 6, 9, 11].contains month then 30
  else 31

/-- Whether there is such a day and such a time. -/
def isValid (d : Date) : Bool :=
  1 ≤ d.year && 1 ≤ d.month && d.month ≤ 12 && 1 ≤ d.day && d.day ≤ daysIn d.year d.month &&
    match d.clock with
    | some c => c.hour < 24 && c.minute < 60 && c.second < 60 && c.zone < 24 * 60
    | none => true

end Date

end DepView.Yaml
