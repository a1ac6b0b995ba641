import DepView.Text.Basic

/-!
The blanks: every character of Unicode property White_Space and the four separators U+001C to
U+001F. Zero-width characters such as U+200B are not among them.
-/

namespace DepView.Text

def isBlank (c : Char) : Bool :=
  let n := c.toNat
  (9 ≤ n && n ≤ 13) || (28 ≤ n && n ≤ 32) || n == 0x85 || n == 0xa0 || n == 0x1680 ||
    (0x2000 ≤ n && n ≤ 0x200a) || n == 0x2028 || n == 0x2029 || n == 0x202f || n == 0x205f ||
    n == 0x3000

/-- A character of property White_Space: a blank that is none of the four separators. -/
def isSpace (c : Char) : Bool :=
  isBlank c && !(28 ≤ c.toNat && c.toNat ≤ 31)

/-- A blank that stays within the line. -/
def isIndent (c : Char) : Bool :=
  c == ' ' || c == '\t'

/-- The text without the blanks at both ends. -/
def trim (text : Text) : Text :=
  trimWhile isBlank text

end DepView.Text
