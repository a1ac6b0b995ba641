import DepView.Text.Basic

/-!
UTF-8. Encoding takes one to four bytes for a character. Decoding reads a character or a faulty
sequence at a time; a faulty sequence is the longest start of a character that could have been
completed, or else a single byte.
-/

namespace DepView

abbrev Bytes := List UInt8

namespace Text.Utf8

def encodeChar (c : Char) : Bytes :=
  let n := c.toNat
  if n < 0x80 then [n.toUInt8]
  else if n < 0x800 then [(0xc0 + n / 0x40).toUInt8, (0x80 + n % 0x40).toUInt8]
  else if n < 0x10000 then
    [(0xe0 + n / 0x1000).toUInt8, (0x80 + n / 0x40 % 0x40).toUInt8, (0x80 + n % 0x40).toUInt8]
  else
    [(0xf0 + n / 0x40000).toUInt8, (0x80 + n / 0x1000 % 0x40).toUInt8,
     (0x80 + n / 0x40 % 0x40).toUInt8, (0x80 + n % 0x40).toUInt8]

def encode (text : Text) : Bytes :=
  text.flatMap encodeChar

/-- How a first byte goes on: the number of further bytes, the bounds of the second byte and the
bits that the first byte contributes. -/
structure Lead where
  more : Nat
  low : Nat
  high : Nat
  bits : Nat
deriving Repr

def lead? (b : UInt8) : Option Lead :=
  let n := b.toNat
  if n < 0x80 then some ⟨0, 0x80, 0xbf, n⟩
  else if n < 0xc2 then none
  else if n < 0xe0 then some ⟨1, 0x80, 0xbf, n - 0xc0⟩
  else if n < 0xf0 then
    some ⟨2, if n == 0xe0 then 0xa0 else 0x80, if n == 0xed then 0x9f else 0xbf, n - 0xe0⟩
  else if n < 0xf5 then
    some ⟨3, if n == 0xf0 then 0x90 else 0x80, if n == 0xf4 then 0x8f else 0xbf, n - 0xf0⟩
  else none

/-- Reads the bytes that a character still lacks. A byte that does not fit is left. -/
def continue? (more low high value : Nat) (bytes : Bytes) : Option Char × Bytes :=
  match more, bytes with
  | 0, bytes => (some (Char.ofNat value), bytes)
  | _ + 1, [] => (none, [])
  | more + 1, b :: rest =>
    if low ≤ b.toNat && b.toNat ≤ high then
      continue? more 0x80 0xbf (value * 0x40 + (b.toNat - 0x80)) rest
    else (none, b :: rest)

/-- The first character, or none for a faulty sequence, and the bytes after it. -/
def step (b : UInt8) (rest : Bytes) : Option Char × Bytes :=
  match lead? b with
  | none => (none, rest)
  | some l => continue? l.more l.low l.high l.bits rest

theorem continue?_le (more low high value : Nat) (bytes : Bytes) :
    (continue? more low high value bytes).2.length ≤ bytes.length := by
  fun_induction continue? more low high value bytes with
  | case1 => simp
  | case2 => simp
  | case3 _ _ _ _ _ _ _ ih => simp only [List.length_cons]; omega
  | case4 => simp

theorem step_le (b : UInt8) (rest : Bytes) : (step b rest).2.length ≤ rest.length := by
  unfold step
  split
  · simp
  · exact continue?_le ..

/-- All characters and faulty sequences of some bytes. -/
def pieces (bytes : Bytes) : List (Option Char) :=
  match bytes with
  | [] => []
  | b :: rest => (step b rest).1 :: pieces (step b rest).2
termination_by bytes.length
decreasing_by
  have := step_le b rest
  simp only [List.length_cons]
  omega

/-- The text of some bytes, if there is no faulty sequence among them. -/
def decode? (bytes : Bytes) : Option Text :=
  (pieces bytes).mapM id

/-- The text of some bytes, with the replacement character for each faulty sequence. -/
def decodeLossy (bytes : Bytes) : Text :=
  (pieces bytes).map (·.getD '\ufffd')

end Text.Utf8

end DepView
