import DepView.Text.Basic

/-!
The addresses of hosts. An address of version 4 has four numbers below 256; one of version 6 has
eight groups of four hexadecimal digits, of which one run may be left out, and may end like one of
version 4 and name a zone.
-/

namespace DepView.Server.Address

/-- A number of an address of version 4, without leading zeros. -/
def isOctet (text : Text) : Bool :=
  !text.isEmpty && text.length ≤ 3 && text.all Char.isDigit &&
    (text.length == 1 || text.head? != some '0') &&
    text.foldl (fun n c => 10 * n + (c.toNat - 48)) 0 < 256

def isVersion4 (text : Text) : Bool :=
  let octets := Text.splitAt '.' text
  octets.length == 4 && octets.all isOctet

/-- Whether a text has the form of an address of version 4, whatever its numbers are. -/
def looksVersion4 (text : Text) : Bool :=
  let octets := Text.splitAt '.' text
  octets.length == 4 && octets.all fun octet => !octet.isEmpty && octet.all Char.isDigit

def isHexDigit (c : Char) : Bool :=
  c.isDigit || ('a' ≤ c && c ≤ 'f') || ('A' ≤ c && c ≤ 'F')

/-- A group of an address of version 6. -/
def isGroup (text : Text) : Bool :=
  text.length ≤ 4 && text.all isHexDigit

/-- The groups of an address, where an address of version 4 at the end counts as two. -/
def groupsOf? (text : Text) : Option (List Text) :=
  let groups := Text.splitAt ':' text
  if groups.length < 3 then none
  else match groups.getLast? with
    | some last =>
      if last.contains '.' then
        if isVersion4 last then some (groups.dropLast ++ [['0'], ['0']]) else none
      else some groups
    | none => none

/-- The places of the empty groups that have a group on both sides. -/
def innerGaps (groups : List Text) : List Nat :=
  (List.range groups.length).filter fun i =>
    0 < i && i + 1 < groups.length && (groups[i]?).any (·.isEmpty)

/-- Whether some groups make an address of version 6. -/
def areGroups (groups : List Text) : Bool :=
  let first := groups.head?.getD []
  let last := groups.getLast?.getD []
  groups.length ≤ 9 && match innerGaps groups with
    | [] => groups.length == 8 && !first.isEmpty && !last.isEmpty && groups.all isGroup
    | [gap] =>
      let before := groups.take gap
      let behind := groups.drop (gap + 1)
      (!first.isEmpty || before.length == 1) && (!last.isEmpty || behind.length == 1) &&
        ((before ++ behind).filter (!·.isEmpty)).length < 8 && (before ++ behind).all isGroup
    | _ => false

def isVersion6 (text : Text) : Bool :=
  let address := text.takeWhile (· != '%')
  let zone := text.drop address.length
  (zone.isEmpty || (zone.length != 1 && !(zone.drop 1).contains '%')) && !address.contains '/' &&
    (groupsOf? address).any areGroups

end DepView.Server.Address
