import DepView.Charset.Basic

/-!
Text in units of two or four bytes. The order of the bytes in a unit may be told by a mark before
the text.
-/

namespace DepView.Charset

/-- The order of the bytes in a unit. -/
inductive ByteOrder where
  | little
  | big
deriving DecidableEq, Repr

namespace ByteOrder

/-- The number that some bytes stand for. -/
def number (order : ByteOrder) (bytes : Bytes) : Nat :=
  let ordered := match order with
    | little => bytes.reverse
    | big => bytes
  ordered.foldl (fun n b => 256 * n + b.toNat) 0

/-- The step for a unit of two bytes, or for two units that are a pair. A unit that has no partner
means nothing. -/
def step2 (order : ByteOrder) (b : UInt8) (rest : Bytes) : Step :=
  match rest with
  | [] => .short
  | c :: more =>
    let unit := order.number [b, c]
    if unit < 0xd800 || 0xdfff < unit then .text [Char.ofNat unit] 1
    else if 0xdc00 ≤ unit then .fault 1
    else match more with
      | d :: e :: _ =>
        let partner := order.number [d, e]
        if 0xdc00 ≤ partner && partner ≤ 0xdfff then
          .text [Char.ofNat (0x10000 + (unit - 0xd800) * 0x400 + (partner - 0xdc00))] 3
        else .fault 1
      | _ => .short

/-- The step for a unit of four bytes. -/
def step4 (order : ByteOrder) (b : UInt8) (rest : Bytes) : Step :=
  match rest with
  | c :: d :: e :: _ =>
    let unit := order.number [b, c, d, e]
    if Nat.isValidChar unit then .text [Char.ofNat unit] 3 else .fault 3
  | _ => .short

end ByteOrder

/-- The order that the mark before a text tells, and the text behind the mark. -/
def order? (mark : Bytes) (bytes : Bytes) : Option (ByteOrder × Bytes) :=
  if mark.isPrefixOf bytes then some (.big, bytes.drop mark.length)
  else if mark.reverse.isPrefixOf bytes then some (.little, bytes.drop mark.length)
  else none

/-- The mark before a text in units of two bytes. -/
def mark2 : Bytes := [0xfe, 0xff]

/-- The mark before a text in units of four bytes. -/
def mark4 : Bytes := [0x00, 0x00, 0xfe, 0xff]

/-- The mark before a text in UTF-8. -/
def mark1 : Bytes := [0xef, 0xbb, 0xbf]

end DepView.Charset
