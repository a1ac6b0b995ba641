import DepView.Charset.Basic
import DepView.Text.Names
import DepView.Text.Surrogate

/-!
Text with escapes: a backslash and a letter stand for a character, by its number or its name. All
other bytes are characters of Latin-1.
-/

namespace DepView.Charset.Escape

def char (b : UInt8) : Char :=
  Char.ofNat b.toNat

def hexValue? (b : UInt8) : Option Nat :=
  let c := char b
  if c.isDigit then some (b.toNat - 48)
  else if 'a' ≤ c && c ≤ 'f' then some (b.toNat - 87)
  else if 'A' ≤ c && c ≤ 'F' then some (b.toNat - 55)
  else none

/-- How reading a number ended: with all its digits, at a byte that is none, or at the end. The
place is counted from the backslash. -/
inductive Number where
  | whole (value : Nat)
  | broken (place : Nat)
  | cut
deriving DecidableEq, Repr

/-- Reads some digits in base 16. -/
def number (count place value : Nat) (bytes : Bytes) : Number :=
  match count, bytes with
  | 0, _ => .whole value
  | _ + 1, [] => .cut
  | count + 1, b :: rest =>
    match hexValue? b with
    | some digit => number count (place + 1) (16 * value + digit) rest
    | none => .broken place

/-- The step for a character by its number. Behind the backslash stand a letter and the digits. -/
def numbered (count : Nat) (bytes : Bytes) : Step :=
  match number count 2 0 bytes with
  | .whole value =>
    if value ≤ 0x10ffff then .text (Text.ofCode value) (count + 1) else .fault (count + 1)
  | .broken place => .fault (place - 1)
  | .cut => .short

/-- The step for a character by its name, in braces. -/
def named (bytes : Bytes) : Step :=
  match bytes with
  | [] => .short
  | b :: rest =>
    if char b != '{' then .fault 1
    else
      let name := rest.takeWhile (char · != '}')
      if name.length = rest.length then .short
      else if name.isEmpty then .fault 2
      else match Text.named? (name.map char) with
        | some c => .text [c] (name.length + 3)
        | none => .fault (name.length + 3)

/-- The characters that a letter behind a backslash stands for. -/
def letters : List (Char × Char) :=
  [('\\', '\\'), ('\'', '\''), ('"', '"'), ('b', '\x08'), ('f', '\x0c'), ('t', '\t'), ('n', '\n'),
    ('r', '\r'), ('v', '\x0b'), ('a', '\x07')]

def isOctal (b : UInt8) : Bool :=
  '0' ≤ char b && char b ≤ '7'

/-- The step for a byte, where all escapes are read. An escape that means nothing is kept. -/
def step (b : UInt8) (rest : Bytes) : Step :=
  if char b != '\\' then .ofChar (char b)
  else match rest with
    | [] => .short
    | letter :: more =>
      match char letter, letters.lookup (char letter) with
      | _, some c => .text [c] 1
      | '\n', none => .text [] 1
      | 'x', none => numbered 2 more
      | 'u', none => numbered 4 more
      | 'U', none => numbered 8 more
      | 'N', none => named more
      | c, none =>
        if isOctal letter then
          let digits := ((letter :: more).take 3).takeWhile isOctal
          .text [Char.ofNat (digits.foldl (fun n d => 8 * n + (d.toNat - 48)) 0)] digits.length
        else .text ['\\', c] 1

/-- The step for a byte, where only escapes with four or eight digits are read. -/
def plainStep (b : UInt8) (rest : Bytes) : Step :=
  if char b != '\\' then .ofChar (char b)
  else match rest with
    | [] => .ofChar '\\'
    | letter :: more =>
      match char letter with
      | 'u' => numbered 4 more
      | 'U' => numbered 8 more
      | c => .text ['\\', c] 1

end DepView.Charset.Escape
