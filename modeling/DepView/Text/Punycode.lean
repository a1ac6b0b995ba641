import DepView.Text.Surrogate

/-!
Punycode writes a text with ASCII characters. The ASCII characters of the text come first, then, for
each other one in the order of their codes, how far it is from the one before, as a number of
variable length. How long the numbers are adapts to those before. A text with a broken number, or a
number that leads to no code, can be read as far as it goes.
-/

namespace DepView.Text.Punycode

def digitChar (digit : Nat) : Char :=
  Char.ofNat (if digit < 26 then digit + 97 else digit + 22)

def digit? (c : Char) : Option Nat :=
  if c.isDigit then some (c.toNat - 22)
  else if c.isLower then some (c.toNat - 97)
  else if c.isUpper then some (c.toNat - 65)
  else none

/-- What a digit must stay below to be the last of its number. -/
def threshold (place bias : Nat) : Nat :=
  min 26 (max 1 (36 * (place + 1) - bias))

theorem threshold_bounds (place bias : Nat) :
    1 ≤ threshold place bias ∧ threshold place bias ≤ 26 := by
  unfold threshold
  omega

/-- How often a number is divided by 35 until it is at most 455, and what is left of it. -/
def divisions (delta : Nat) : Nat × Nat :=
  if 455 < delta then
    let (count, rest) := divisions (delta / 35)
    (count + 1, rest)
  else (0, delta)
termination_by delta
decreasing_by exact Nat.div_lt_self (by omega) (by omega)

/-- The bias for the next number. -/
def adapt (delta : Nat) (isFirst : Bool) (count : Nat) : Nat :=
  let delta := if isFirst then delta / 700 else delta / 2
  let (times, rest) := divisions (delta + delta / count)
  36 * times + 36 * rest / (rest + 38)

/-- The digits of a number, the lowest first. -/
def digits (bias place n : Nat) : Text :=
  let t := threshold place bias
  if n < t then [digitChar n]
  else digitChar (t + (n - t) % (36 - t)) :: digits bias (place + 1) ((n - t) / (36 - t))
termination_by n
decreasing_by
  have := threshold_bounds place bias
  calc (n - threshold place bias) / (36 - threshold place bias)
      ≤ n - threshold place bias := Nat.div_le_self _ _
    _ < n := by omega

/-- Where the writing is: what is written, the distance since the last character, the bias and how
many characters are done. -/
structure Progress where
  written : Text
  delta : Nat
  bias : Nat
  done : Nat

/-- Passes one character while those with a code are written. -/
def pass (basic code : Nat) (p : Progress) (c : Nat) : Progress :=
  if c < code then { p with delta := p.delta + 1 }
  else if c == code then
    { written := p.written ++ digits p.bias 0 p.delta, delta := 0
      bias := adapt p.delta (p.done == basic) (p.done + 1), done := p.done + 1 }
  else p

/-- Writes the characters with the codes that are left, in ascending order. -/
def writeCodes (codes : List Nat) (basic : Nat) (next : Nat) (p : Progress) : List Nat → Progress
  | [] => p
  | code :: left =>
    let p := { p with delta := p.delta + (code - next) * (p.done + 1) }
    let p := codes.foldl (pass basic code) p
    writeCodes codes basic (code + 1) { p with delta := p.delta + 1 } left

def encode (text : Text) : Text :=
  let codes := Text.codes text
  let basic := text.filter fun c => c.toNat < 128
  let others := ((codes.filter (128 ≤ ·)).mergeSort (· ≤ ·)).eraseDups
  basic ++ (if basic.isEmpty then [] else ['-']) ++
    (writeCodes codes basic.length 128 ⟨[], 0, 72, basic.length⟩ others).written

/-- Reads a number and gives it with the text behind it. -/
def number? (bias place weight value : Nat) : Text → Option (Nat × Text)
  | [] => none
  | c :: rest =>
    match digit? c with
    | none => none
    | some d =>
      let t := threshold place bias
      if d < t then some (value + d * weight, rest)
      else number? bias (place + 1) (weight * (36 - t)) (value + d * weight) rest

theorem number?_length {bias place weight value : Nat} {text rest : Text} {n : Nat}
    (h : number? bias place weight value text = some (n, rest)) : rest.length < text.length := by
  induction text generalizing place weight value with
  | nil => simp [number?] at h
  | cons c tail ih =>
    simp only [number?] at h
    split at h
    · simp at h
    · split at h
      · simp only [Option.some.injEq, Prod.mk.injEq] at h
        simp [h.2]
      · have := ih h
        simp only [List.length_cons]
        omega

/-- Inserts characters where the numbers say. The flag of the result is off if a number was broken
or led to no code; a question mark then stands for the latter, and the former ends the text. -/
def insertFrom (codes : List Nat) (code place bias : Nat) (isFirst : Bool) (text : Text) :
    List Nat × Bool :=
  if text.isEmpty then (codes, true)
  else match _h : number? bias 0 1 0 text with
    | none => (codes, false)
    | some (delta, rest) =>
      let spot := place + delta
      let room := codes.length + 1
      let next := code + spot / room
      let isCode := next ≤ 0x10ffff
      let code := if isCode then next else '?'.toNat
      let grown := codes.take (spot % room) ++ code :: codes.drop (spot % room)
      let (all, sound) :=
        insertFrom grown code (spot % room + 1) (adapt delta isFirst room) false rest
      (all, sound && isCode)
termination_by text.length
decreasing_by exact number?_length _h

/-- The text for the ASCII characters of a text and the numbers for its other characters. -/
def build (basic numbers : Text) : Text × Bool :=
  let (codes, sound) := insertFrom (Text.codes basic) 128 0 72 true numbers
  (codes.flatMap ofCode, sound)

/-- The part before the last dash, and the part behind it. -/
def split (text : Text) : Text × Text :=
  let numbers := lastPiece (· == '-') text
  (text.take (text.length - numbers.length - 1), numbers)

/-- The text that is written, if it is written well. -/
def decode? (text : Text) : Option Text :=
  let (basic, numbers) := split text
  match build basic numbers with
  | (text, true) => some text
  | (_, false) => none

end DepView.Text.Punycode
