import DepView.Text.Ranges

/-!
Small letters. Most capital letters have one small letter; runs of them are kept with their small
letters. The capital I with a dot has two characters, and a capital sigma is small in its own way at
the end of a word.
-/

namespace DepView.Text

/-- A run of capital letters: the first, their number and distance, and the first small letter. -/
structure CapitalRun where
  first : Nat
  count : Nat
  step : Nat
  small : Nat

def capitalRuns : List CapitalRun :=
  read (numerals
  ["1t q 1 2p 5c n 1 68 60 7 1 6w 74 o 2 75 8i 3 2 8j 8p 8 2 8q 96 n 2 97 ag 1 1 73 ah 3 2 ai ap ",
   "1 1 gj aq 2 2 ar au 1 1 gk av 1 1 aw ax 2 1 gm az 1 1 b0 b2 1 1 d9 b3 1 1 gp b4 1 1 gr b5 1 ",
   "1 b6 b7 1 1 gw b8 1 1 gz ba 1 1 h5 bb 1 1 h4 bc 1 1 bd bg 1 1 hb bh 1 1 he bj 1 1 hh bk 3 2 ",
   "bl bq 1 1 hs br 1 1 bs bt 1 1 hv bw 1 1 bx by 1 1 i0 bz 1 1 c0 c1 2 1 i2 c3 2 2 c4 c7 1 1 ia ",
   "c8 1 1 c9 cc 1 1 cd ck 1 1 cm cl 1 1 cm cn 1 1 cp co 1 1 cp cq 1 1 cs cr 9 2 cs da 9 2 db dt ",
   "1 1 dv du 2 2 dv dy 1 1 b9 dz 1 1 cf e0 k 2 e1 f4 1 1 bi f6 9 2 f7 fu 1 1 8rp fv 1 1 fw fx 1 ",
   "1 be fy 1 1 8rq g1 1 1 g2 g3 1 1 ao g4 1 1 i1 g5 1 1 i4 g6 5 2 g7 og 2 2 oh om 1 1 on ov 1 1 ",
   "s3 p2 1 1 q4 p4 3 1 q5 p8 1 1 r0 pa 2 1 r1 pd h 1 q9 pv 9 1 qr r3 1 1 rb rc c 2 rd s4 1 1 qg ",
   "s7 1 1 s8 s9 1 1 s2 sa 1 1 sb sd 3 1 or sg g 1 uo sw w 1 ts v4 h 2 v5 wa r 2 wb xs 1 1 y7 xt ",
   "7 2 xu y8 1c 2 y9 10x 12 1 129 3a8 12 1 8w0 3bb 1 1 8x3 3bh 1 1 8x9 3vk 28 1 xv4 3xs 6 1 3y0 ",
   "5n4 17 1 3bk 5od 3 1 3ct 5xc 23 2 5xd 61q 1 1 67 61s 1c 2 61t 64o 8 1 64g 654 6 1 64w 65k 8 ",
   "1 65c 660 8 1 65s 66g 6 1 668 66x 4 2 66p 67c 8 1 674 688 8 1 680 68o 8 1 68g 694 8 1 68w ",
   "69k 2 1 69c 69m 2 1 67k 69o 1 1 69f 6a0 4 1 67m 6a4 1 1 69v 6ag 2 1 6a8 6ai 2 1 67q 6aw 2 1 ",
   "6ao 6ay 2 1 67u 6b0 1 1 6at 6bc 2 1 67s 6be 2 1 67w 6bg 1 1 6b7 6jq 1 1 qx 6ju 1 1 2z 6jv 1 ",
   "1 6d 6k2 1 1 6ku 6lc g 1 6ls 6mb 1 1 6mc 792 q 1 79s 8ow 1c 1 8q8 8rk 1 1 8rl 8rm 1 1 h7 8rn ",
   "1 1 5tp 8ro 1 1 hp 8rr 3 2 8rs 8rx 1 1 gh 8ry 1 1 hd 8rz 1 1 gg 8s0 1 1 gi 8s2 1 1 8s3 8s5 1 ",
   "1 8s6 8se 2 1 fz 8sg 1e 2 8sh 8vf 2 2 8vg 8vm 1 1 8vn wu8 n 2 wu9 ww0 e 2 ww1 x0i 7 2 x0j ",
   "x0y v 2 x0z x2x 2 2 x2y x31 1 1 5tl x32 5 2 x33 x3f 1 1 x3g x3h 1 1 h1 x3k 2 2 x3l x3q a 2 ",
   "x3r x4a 1 1 h2 x4b 1 1 gs x4c 1 1 gx x4d 1 1 h8 x4e 1 1 h6 x4g 1 1 im x4h 1 1 hz x4i 1 1 il ",
   "x4j 1 1 xub x4k 8 2 x4l x50 1 1 x3o x51 1 1 hu x52 1 1 5u6 x53 2 2 x54 x5c 1 1 x5d x5i 2 2 ",
   "x5j x6d 1 1 x6e 1ee9 q 1 1ef5 1fcw 14 1 1fe0 1fhs 10 1 1fiw 1fn4 j 2 1fo7 1fn5 5 2 1fo8 1fnh ",
   "7 2 1fok 1fnx 3 2 1fp0 1fo5 1 1 1fp8 1h1c 1f 1 1h34 1jfk w 1 1jgg 20cg w 1 20dc 2olc y 1 ",
   "2oma "])
where
  read : List Nat → List CapitalRun
    | first :: count :: step :: small :: rest => ⟨first, count, step, small⟩ :: read rest
    | _ => []

def CapitalRun.small? (r : CapitalRun) (code : Nat) : Option Nat :=
  if r.first ≤ code && (code - r.first) % r.step == 0 && (code - r.first) / r.step < r.count then
    some (r.small + (code - r.first))
  else none

/-- The small letter for a character. -/
def lowerChar (c : Char) : Char :=
  if c.toNat < 128 then c.toLower
  else match capitalRuns.findSome? (·.small? c.toNat) with
    | some code => Char.ofNat code
    | none => c

/-- Letters that have a case. -/
def cased : Ranges := Ranges.ofLines
  ["1t q 6 q 1b 1 a 1 4 1 5 n 1 v 1 5f 1 4 4 5s 1 r 5c 4 2 2 3 3 1 1 6 1 1 3 1 1 1 k 1 2b 1 3v 8 ",
   "4m 1 12 9 15 26v 12 1 1 5 1 2 17 2 3 io 2e 2 6 1oi 9 7 17 2 3 1s 18 1r d 1 y 2t 7q 2 6 2 12 ",
   "2 6 2 8 1 1 1 1 1 1 1 v 2 1h 1 7 1 1 3 3 1 7 3 4 2 6 4 d 5 3 1 7 79 1 4 1 2 a 1 1 3 5 6 1 1 ",
   "1 1 1 1 4 1 6 4 1 2 4 5 5 4 1 h w 3 2 mp 1g 1ee 3g 2 2v 6 4 3 2 c 12 1 1 5 1 nwy 1a i s 3q ",
   "26 1 n 3 4 1 1n 5 2 1 1 1 5 r 2 3 1 mt 17 5 9 7 28 fnk 7 c 5 sp q 6 q x1 28 2o 10 4 10 38 b ",
   "1 f 1 7 1 2 1 b 1 f 1 7 1 2 1c3 1f d 1f 2b1 1s gv4 1s k1s 2d 1 1z 1 2 2 1 2 2 2 4 1 c 1 1 1 ",
   "7 1 1t 1 4 2 8 1 7 1 s 1 4 1 5 1 1 3 7 1 9g 2 p 1 p 1 v 1 p 1 v 1 p 1 v 1 p 1 v 1 p 1 8 1f8 ",
   "a 1 k 1y9 1w 1kc q 6 q 6 q "]

/-- Marks and other characters within words that a case passes over. -/
def caseless : Ranges := Ranges.ofLines
  ["13 1 6 1 b 1 z 1 1 1 1z 1 4 1 1 1 4 1 2 2 dz 5c 4 2 4 1 9 2 1 1 6z 7 5r 1 5 1 1d 19 1 1 1 2 ",
   "1 2 1 1 18 1 b 6 a b 1 1 z 1 a l g 1 2t 8 1 a 1 4 x 1 1 1 u r 2j b 1m b 4 1 2 1 o o 17 3 18 ",
   "1 7 2 6 8 15 1m 1j 1 1 1 4 8 4 1 3 7 a 2 d 1 f 1 1m 1 4 4 8 1 k 2 q 1 2 2 1l 1 4 2 4 2 2 3 3 ",
   "1 u 2 3 1 b 2 1l 1 4 5 1 2 4 1 k 2 m 6 1 1 1m 1 2 1 1 4 8 1 7 2 b 2 u 1 1p 1 c 1 1e 1 3 1 1j ",
   "1 1 3 5 3 1 4 7 2 b 2 t 1 1m 1 2 1 6 1 5 2 k 2 s 2 1l 2 4 4 8 1 k 2 t 1 20 1 7 3 1 1 2i 1 2 ",
   "7 b 9 2q 1 2 9 9 1 1 6 22 2 r 1 1 1 1 1 1j e 1 5 1 2 5 b 1 10 9 1 2u 4 1 6 1 2 2 2 p 2 4 3 g ",
   "4 d 1 2 2 6 1 f 1 2m 1 gw 3 qa 3 t 2 u 2 u 2 1s 2 1 7 8 1 2 b 3 1 5 1 19 5 1f 1 1t 2 y 1 3a ",
   "3 4 2 9 1 6 3 63 2 2 1 1m 1 1 7 1 1 1 1 2 8 6 a 2 1 13 1 8 v 1d 4 1c 1 1 5 1 1 5 1 14 9 c 2 ",
   "w 4 2 2 1 3 1k 1 1 2 3 1 1 3 1m 8 2 2 1s 6 2a 3 1 d 1 7 4 1 6 1 3 2 1e 1r d 1 y 2t cd 1 1 3 ",
   "b 3 d 3 d 3 d 2 c 5 8 2 a 1 2 1 2 5 1d 5 1 a 1 1 d 1 g d 1f x 2a3 2 35 3 3h 1 f 1 2o w 1b 1 ",
   "d1 1 10 4 3 5 5 1 2l 6 2l 3 lxy 1 yq 6 7i 1 2q 4 1 a 1 1 s 4 28 2 e y 26 1 n 3 2v 3 3 2 8 1 ",
   "3 1 4 1 p 2 5 1 47 2 q i d 1 12 8 p b 1a 3 1c 1 2 4 2 2 h 1 l 2 1u 6 2 2 2 2 c 1 8 1 z 1 b 1 ",
   "1f 1 1 3 2 2 5 2 1 1 r 1 e 2 5 2 1 1 2s 5 9 3 3d 1 2 1 4 1 fn4 1 43 h fx g 3 1 c g y 1 2 1 ",
   "4p 1 7 1 6 1 b 1 z 1 1 1 1b 1 19 2 1v 1 l 3 e9 1 6a 1 45 5 sl 6 1 16 1 9 g6 3 1 2 5 4 14 3 4 ",
   "1 4l 2 fx 4 ar 2 49 b 1d 4 3f 1 1i f 15 1 2 2 a 3 1d 4 2 2 2 1 4 1 a 1 1e 3 10 5 1 8 1q 1 c ",
   "2 1g 9 a 4 2 1 2n 3 2 1 1 2 6 1 4g 1 3 8 l 2 1l 2 3 1 11 7 3 5 5f 8 2 3 1 1 n 1 2c 6 1 1 4 2 ",
   "1 2 6m 4 6 2 1 2 r 2 2d 8 2 1 1 2 2y 1 1 1 2 6 1 1 2t 3 2 4 1 5 77 9 1 2 74 2 1 1 4 1 40 4 2 ",
   "2 4 1 w a 14 6 2 4 8 1 9 6 2 3 1a d 1 2 ba 7 1 6 1 1 2a m 2 7 1 2 1 2 3e 6 3 1 1 2 1 7 1 1 ",
   "20 2 3 1 1 1 9n 2 46z 9 at3 5 1n 7 9 4 sr 1 1r h 1s 2 1 2 cnf 4 1 7 1 2 2hq 2 1 4 3mk 1a 2 n ",
   "f4 3 9 g 2 7 u 4 44 3 1iz 1j 4 1e 8 1 e 1 m 5 1 f 11s 7 1 h 2 7 1 2 1 5 79 e a8 1 1p 4 15s 7 ",
   "31 8 23z 5 gx6p 1 u 2o 3k 6o "]

/-- Whether a capital sigma ends a word, as far as letters go: some letter is before it and none
behind it. What stands before is in reverse. -/
def endsWord (before behind : Text) : Bool :=
  (before.find? (!caseless.has ·)).any cased.has && !(behind.find? (!caseless.has ·)).any cased.has

/-- The text in small letters. What stands before is in reverse. -/
def lowerFrom (before : Text) : Text → Text
  | [] => []
  | c :: rest =>
    let small :=
      if c == 'İ' then ['i', '\u0307']
      else if c == 'Σ' then [if endsWord before rest then 'ς' else 'σ']
      else [lowerChar c]
    small ++ lowerFrom (c :: before) rest

def lower (text : Text) : Text :=
  lowerFrom [] text

end DepView.Text
