import DepView.Charset.CodePages
import DepView.Charset.Escape
import DepView.Charset.Fault
import DepView.Charset.Switching
import DepView.Charset.Units
import DepView.Charset.Utf7
import DepView.Text.Punycode

/-!
The character sets, and the text of bytes in each. A text may be read exactly, and then it is there
only if all bytes mean something; or it is read with replacements, which some sets refuse.
-/

namespace DepView

inductive Charset where
  | ascii
  | latin
  | page (name : String)
  | utf7
  | utf8
  /-- UTF-8 behind a mark, which may be left out. -/
  | utf8Marked
  /-- Units of two bytes. A mark tells their order where the set does not. -/
  | utf16 (order : Option Charset.ByteOrder)
  /-- Units of four bytes. A mark tells their order where the set does not. -/
  | utf32 (order : Option Charset.ByteOrder)
  | escaped
  | escapedPlain
  | punycode
  | chinese
  | chineseMore
  | chineseAll
  | chineseShifted
  | traditional
  | traditionalWindows
  | traditionalHongKong
  | korean
  | koreanWindows
  | koreanAssembled
  | shiftJis
  | shiftJisWindows
  | shiftJis0213 (edition : Charset.Japanese.Edition)
  | eucJp
  | eucJis0213 (edition : Charset.Japanese.Edition)
  | switching (plan : Charset.Switching.Plan)
  /-- The names of hosts, which are only read exactly. -/
  | domain
  /-- A set that no bytes are in. -/
  | nothing
  /-- A code in which bytes stand for bytes. -/
  | binary
  /-- A code in which characters stand for characters. -/
  | letters
deriving Repr

namespace Charset

/-- The text of bytes with one character for each. The characters of a page are for all bytes, or
for those from 0x80 on. -/
def readPage (page : Array Char) (bytes : Bytes) : Decoded :=
  bytes.map fun b =>
    let c := if page.size = 128 then (ascii? b.toNat).or page[b.toNat - 128]? else page[b.toNat]?
    c.filter (· != '\ufffd')

/-- The characters of a code page. -/
def pageOf (name : String) : Array Char :=
  (((codePages.lookup name).getD []).flatMap String.toList).toArray

/-- The text of units behind a mark. Without one the first byte is the lowest of its unit. -/
def readMarked (mark : Bytes) (step : ByteOrder → UInt8 → Bytes → Step) (bytes : Bytes) :
    Decoded :=
  let (order, rest) := (order? mark bytes).getD (.little, bytes)
  readEach (step order) rest

/-- The text of Punycode, where it is read exactly. -/
def punycodeText? (bytes : Bytes) : Option Text :=
  if bytes.all fun b => b.toNat < 0x80 then
    Text.Punycode.decode? (bytes.map fun b => Char.ofNat b.toNat)
  else none

/-- The text of Punycode with replacements. -/
def punycodeText (bytes : Bytes) : Except Fault Text :=
  let (basic, numbers) := Text.Punycode.split (bytes.map fun b => Char.ofNat b.toNat)
  if numbers.any fun c => 0x80 ≤ c.toNat then .error .foreignDigit
  else
    let basic := basic.map fun c => if c.toNat < 0x80 then c else '\ufffd'
    .ok (Text.Punycode.build basic numbers).1

/-- What bytes mean in a set. -/
def decode (set : Charset) (bytes : Bytes) : Decoded :=
  match set with
  | ascii => bytes.map fun b => ascii? b.toNat
  | latin => bytes.map fun b => some (Char.ofNat b.toNat)
  | page name => readPage (pageOf name) bytes
  | utf7 => Utf7.decode bytes
  | utf8 => Text.Utf8.pieces bytes
  | utf8Marked => Text.Utf8.pieces (if mark1.isPrefixOf bytes then bytes.drop 3 else bytes)
  | utf16 (some order) => readEach order.step2 bytes
  | utf16 none => readMarked mark2 ByteOrder.step2 bytes
  | utf32 (some order) => readEach order.step4 bytes
  | utf32 none => readMarked mark4 ByteOrder.step4 bytes
  | escaped => readEach Escape.step bytes
  | escapedPlain => readEach Escape.plainStep bytes
  | punycode =>
    match punycodeText? bytes with
    | some text => .ofText text
    | none => [none]
  | chinese => readEach Chinese.gb2312Step bytes
  | chineseMore => readEach Chinese.gbkStep bytes
  | chineseAll => readEach Chinese.gb18030Step bytes
  | chineseShifted => readAll Chinese.shiftedStep false bytes
  | traditional => readEach Chinese.big5Step bytes
  | traditionalWindows => readEach Chinese.big5WindowsStep bytes
  | traditionalHongKong => readEach Chinese.hkscsStep bytes
  | korean => readEach Korean.step bytes
  | koreanWindows => readEach Korean.windowsStep bytes
  | koreanAssembled => readEach Korean.assembledStep bytes
  | shiftJis => readEach Japanese.shiftStep bytes
  | shiftJisWindows => readEach Japanese.windowsStep bytes
  | shiftJis0213 edition => readEach (Japanese.shiftStepOf edition) bytes
  | eucJp => readEach Japanese.eucStep bytes
  | eucJis0213 edition => readEach (Japanese.eucStepOf edition) bytes
  | switching plan => Switching.decode plan bytes
  | domain => bytes.map fun b => ascii? b.toNat
  | nothing | binary | letters => [none]

/-- The text of bytes that all mean something. -/
def wholeText? (set : Charset) (bytes : Bytes) : Option Text :=
  (set.decode bytes).text?

/-- Whether the mark is missing before a unit. -/
def lacksMark (mark bytes : Bytes) : Bool :=
  mark.length ≤ bytes.length && (order? mark bytes).isNone

/-- The text of bytes, with replacements for those that mean nothing. Where there are no bytes, the
set does not matter. -/
def read (set : Charset) (bytes : Bytes) : Except Fault Text :=
  if bytes.isEmpty then .ok []
  else match set with
    | utf8Marked =>
      .ok (if bytes.length < 3 && bytes.isPrefixOf mark1 then [] else (set.decode bytes).lossy)
    | utf16 none => if lacksMark mark2 bytes then .error .refused else .ok (set.decode bytes).lossy
    | utf32 none => if lacksMark mark4 bytes then .error .refused else .ok (set.decode bytes).lossy
    | switching plan =>
      if Switching.overflows plan bytes then .error .refused else .ok (set.decode bytes).lossy
    | punycode => punycodeText bytes
    | domain | nothing => .error .refused
    | binary => .error .notText
    | letters => .error .notBytes
    | set => .ok (set.decode bytes).lossy

end Charset

end DepView
