import DepView.Charset.Chinese
import DepView.Charset.Japanese
import DepView.Charset.Korean

/-!
Character sets that switch between others with escape sequences, all in seven bits. A sequence names
the set that is used from there on, as the first one or as the second one, between which two control
characters shift, or as a third one for single characters.
-/

namespace DepView.Charset.Switching

/-- A set that may be switched to. -/
inductive Member where
  | ascii
  | roman
  | katakana
  | latin
  | greek
  | jis (old : Bool)
  | jisMore
  | first (edition : Japanese.Edition)
  | second (edition : Japanese.Edition)
  | korean
  | chinese
deriving DecidableEq, Repr

namespace Member

/-- Whether its characters take two bytes. -/
def isDouble : Member → Bool
  | ascii | roman | katakana | latin | greek => false
  | _ => true

/-- The letter that ends the sequence for a set. -/
def letter : Member → Char
  | ascii => 'B'
  | roman => 'J'
  | katakana => 'I'
  | latin => 'A'
  | greek => 'F'
  | jis old => if old then '@' else 'B'
  | jisMore => 'D'
  | first edition => if edition = .of2000 then 'O' else 'Q'
  | second _ => 'P'
  | korean => 'C'
  | chinese => 'A'

/-- The character of a set for one byte, or for two. The sets for single characters have none here.
-/
def char? (m : Member) (byte second : Nat) : Option Text :=
  match m with
  | ascii => (ascii? byte).map ([·])
  | roman => (Japanese.roman? byte).map ([·])
  | katakana => (Japanese.katakana? (byte + 0x80)).map ([·])
  | latin | greek => none
  | jis _ => (jisX0208.cell? byte second).map ([·])
  | jisMore => (jisX0212.cell? byte second).map ([·])
  | first edition =>
    if byte == 0x22 && second == 0x32 then some ['~'] else Japanese.first? edition byte second
  | .second _ => (jisX0213Second.cell? byte second).map ([·])
  | korean => (ksX1001.cell? byte second).map ([·])
  | chinese => (gb2312.cell? byte second).map ([·])

end Member

/-- Which sets there are, and how they may be used. -/
structure Plan where
  members : List Member
  /-- Whether control characters shift between the first and the second set. -/
  shifts : Bool
  /-- Whether there is a third set for single characters. -/
  hasThird : Bool
deriving Repr

namespace Plan

def korean : Plan := ⟨[.korean], true, false⟩

def japanese (members : List Member) : Plan :=
  ⟨.jis false :: members, false, false⟩

/-- Whether the newer edition of JIS X 0208 may be announced by a sequence of its own. -/
def hasAnnouncement (p : Plan) : Bool :=
  !p.shifts

end Plan

/-- Where a set is put by a sequence. -/
inductive Slot where
  | first
  | second
  | third
deriving DecidableEq, Repr

structure State where
  first : Member
  second : Member
  third : Member
  shifted : Bool
  /-- Whether a sequence that means nothing here is being passed through. -/
  passing : Bool
deriving Repr

namespace State

def start : State := ⟨.ascii, .ascii, .ascii, false, false⟩

def put (s : State) (slot : Slot) (m : Member) : State :=
  match slot with
  | .first => { s with first := m }
  | .second => { s with second := m }
  | .third => { s with third := m }

end State

def endsSequence (b : UInt8) : Bool :=
  (0x41 ≤ b.toNat && b.toNat ≤ 0x5a) || b == 0x40

/-- A sequence has no more bytes than this. -/
def maxLength : Nat := 16

/-- The length of a sequence, from the escape character to the byte that ends it: zero if none ends
it, and nothing if bytes are missing. An announcement is stepped over, with the byte behind it. -/
def lengthOf (announces : Bool) (bytes : Bytes) (place : Nat) : Nat → Option Nat
  | 0 => some 0
  | fuel + 1 =>
    if maxLength ≤ place then some 0
    else match bytes.drop place with
      | [] => none
      | b :: rest =>
        if endsSequence b then some (place + 1)
        else if announces && b == 0x26 && rest.head? == some 0x40 then
          lengthOf announces bytes (place + 3) fuel
        else lengthOf announces bytes (place + 1) fuel

/-- What a whole sequence asks for: a slot, whether characters are double, and the letter of a set.
-/
def request? (p : Plan) (sequence : Text) : Option (Slot × Bool × Char) :=
  match sequence with
  | [_, '$', letter] => some (.first, true, letter)
  | [_, '(', letter] => some (.first, false, letter)
  | [_, ')', letter] => some (.second, false, letter)
  | [_, '.', letter] => if p.hasThird then some (.third, false, letter) else none
  | [_, '$', '(', letter] => some (.first, true, letter)
  | [_, '$', ')', letter] => some (.second, true, letter)
  | [_, _, _, '\x1b', '$', 'B'] => if p.hasAnnouncement then some (.first, true, 'B') else none
  | _ => none

/-- The set that a sequence names. ASCII is always there. -/
def member? (p : Plan) (isDouble : Bool) (letter : Char) : Option Member :=
  (Member.ascii :: p.members).find? fun m => m.isDouble == isDouble && m.letter == letter

/-- A sequence that may switch to another set. -/
def switch (p : Plan) (s : State) (b : UInt8) (rest : Bytes) : Step × State :=
  match lengthOf p.hasAnnouncement (b :: rest) 1 maxLength with
  | none => (.short, s)
  | some 0 => (.fault 0, s)
  | some (n + 1) =>
    let sequence := ((b :: rest).take (n + 1)).map fun b => Char.ofNat b.toNat
    match (request? p sequence).bind fun (slot, isDouble, letter) =>
        (member? p isDouble letter).map fun m => s.put slot m with
    | some s => (.text [] n, s)
    | none => (.fault n, s)

/-- The Greek letters and signs that a byte above 0x80 stands for. -/
def greek? (byte : Nat) : Option Char :=
  if byte < 0xa0 then some (Char.ofNat byte)
  else if byte == 0xa1 then some '‘'
  else if byte == 0xa2 then some '’'
  else if byte == 0xaf then some '―'
  else if greekSame.contains byte then some (Char.ofNat byte)
  else if 0xb4 ≤ byte && byte ≤ 0xfe && byte != 0xb7 && byte != 0xbb && byte != 0xbd &&
      byte != 0xd2 then
    some (Char.ofNat (0x2d0 + byte))
  else none
where
  greekSame : List Nat :=
    [0xa0, 0xa3, 0xa6, 0xa7, 0xa8, 0xa9, 0xab, 0xac, 0xad, 0xb0, 0xb1, 0xb2, 0xb3, 0xb7, 0xbb, 0xbd]

/-- A single character of the third set. -/
def single? (m : Member) (byte : Nat) : Option Char :=
  match m with
  | .latin => if byte < 0x80 then some (Char.ofNat (byte + 0x80)) else none
  | .greek => greek? (if byte < 0x80 then byte + 0x80 else byte - 0x80)
  | _ => ascii? byte

/-- The step behind an escape character. -/
def afterEscape (p : Plan) (s : State) (b : UInt8) (rest : Bytes) : Step × State :=
  match rest with
  | [] => (.short, s)
  | second :: more =>
    let c := Char.ofNat second.toNat
    if ['(', ')', '$', '.', '&'].contains c then switch p s b rest
    else if p.hasThird && c == 'N' then
      match more with
      | [] => (.short, s)
      | byte :: _ =>
        match single? s.third byte.toNat with
        | some c => (.text [c] 2, s)
        | none => (.fault 2, s)
    else (.text ['\x1b'] 0, { s with passing := true })

/-- A character of the set that is in use. -/
def ofMember (s : State) (b : UInt8) (rest : Bytes) : Step :=
  let m := if s.shifted then s.second else s.first
  if m.isDouble then
    match rest with
    | [] => .short
    | second :: _ =>
      match m.char? b.toNat second.toNat with
      | some text => .text text 1
      | none => .fault 1
  else match m.char? b.toNat 0 with
    | some text => .text text 0
    | none => .fault 0

/-- The step of a plan. A line feed goes back to the first set. -/
def step (p : Plan) (s : State) (b : UInt8) (rest : Bytes) : Step × State :=
  let n := b.toNat
  if s.passing then
    (.ofChar (Char.ofNat n), { s with passing := !endsSequence b })
  else if n == 0x1b then afterEscape p s b rest
  else if p.shifts && n == 0x0f then (.text [] 0, { s with shifted := false })
  else if p.shifts && n == 0x0e then (.text [] 0, { s with shifted := true })
  else if n == 0x0a then (.ofChar '\n', { s with shifted := false })
  else if n < 0x20 then (.ofChar (Char.ofNat n), s)
  else if 0x80 ≤ n then (.fault 0, s)
  else (ofMember s b rest, s)

/-- No more than this many bytes can wait for the rest of a sequence. -/
def maxLeftOver : Nat := 8

/-- Whether a sequence that has no end is too long to wait for it. -/
def overflows (p : Plan) (bytes : Bytes) : Bool :=
  maxLeftOver < leftOver (step p) .start bytes

/-- The text of bytes that switch between sets. -/
def decode (p : Plan) (bytes : Bytes) : Decoded :=
  readAll (step p) .start bytes

end DepView.Charset.Switching
