import DepView.Text.Ranges

/-!
The directions in which the permitted characters are written, as far as a label of a domain name
asks for them. What stands in no table here is written from left to right.
-/

namespace DepView.Domain

open Text

/-- Letters that are written from right to left. -/
def rightToLeft : Ranges := Ranges.ofLines
  ["15c r 4 6 cr 17 9 2 a m 4 1 9 1 3 1 n p 1ehz 6 2 1 1 18 1 2 3 1 2 n a n 9 v 1t j 1 2 a m a q ",
   "1y 1k 6 2 1s 1 f 4 1 3 1 t 16 t 3 t z 8 1 s r 1i a m a j d i 32 21 3b 1f b1 16 6 2 26 t a 1 ",
   "20 i 1a l r n 16o9 5h 2l y 7 1 4 a "]

/-- Letters of Arabic and its kin, from right to left. -/
def arabicLetter : Ranges := Ranges.ofLines
  ["17k w 1 a z 2 1 4 4 2j 1 1 f 2 7 2 a 6 g 1 1 u t 2h b 1 4u b 5 o 1 6 h 16 1cix 1 2vg 10 ek m "]

/-- Arabic numbers. -/
def arabicNumber : Ranges := Ranges.ofLines
  ["19c a 1fwm a "]

/-- European numbers. -/
def europeanNumber : Ranges := Ranges.ofLines
  ["1c a 1bq a "]

/-- Marks that take no room. -/
def nonspacing : Ranges := Ranges.ofLines
  ["lc 1s 2 1 3 9 1 w 7n 5 7d 19 1 1 1 2 1 2 1 1 20 b 1c l g 1 2t 7 2 6 2 2 1 4 z 1 u r 2j b 1m ",
   "9 9 1 o 4 1 9 1 3 1 5 17 3 1o 8 16 o 1 w 1j 1 1 1 4 8 4 1 3 7 a 2 t 1 1m 1 4 4 8 1 k 2 q 1 2 ",
   "2 1l 1 4 2 4 2 2 3 3 1 u 2 3 1 b 2 1l 1 4 5 1 2 4 1 k 2 m 6 1 1 1m 1 2 1 1 4 8 1 7 2 b 2 u 1 ",
   "1p 1 c 1 1e 1 3 1 1j 1 1 3 5 3 1 4 7 2 b 2 t 1 1m 1 f 2 k 2 s 2 1l 2 4 4 8 1 k 2 t 1 20 1 7 ",
   "3 1 1 2i 1 2 7 c 8 2q 1 2 9 b 6 22 2 r 1 1 1 1 1 1j 2 1 1 5 5 1 1 1 3 1 2 5 6 1 4 1 4 1 4 1 ",
   "4 1 4 1 c 1 3 9 1 2u 4 1 6 1 2 2 2 p 2 4 3 g 4 d 1 2 2 6 1 f 1 jj 3 qa 3 t 2 u 2 u 2 1v 7 8 ",
   "1 2 b 9 1 4n 2 y 1 3a 3 4 2 9 1 6 3 63 2 2 1 1m 1 1 7 1 1 1 1 2 8 6 a 2 1 1c e 1 g 1d 4 1c 1 ",
   "1 5 1 1 5 1 14 9 c 2 w 4 2 2 1 3 1k 1 1 2 3 1 1 3 1m 8 2 2 48 3 1 d 1 7 4 1 6 1 3 2 5i 1s ",
   "2y7 3 3x 1 2o w fe 4 2z 2 n9w 1 4 a w 2 28 2 7k 1 3 1 4 1 p 2 5 1 47 2 q i d 1 12 8 p b 1a 3 ",
   "1c 1 2 4 2 2 13 1 1v 6 2 2 2 2 c 1 8 1 1b 1 1f 1 1 3 2 2 5 2 1 1 16 2 8 1 6m 1 2 1 4 1 fn4 1 ",
   "ld g r1 1 6a 1 45 5 1ae 3 1 2 5 4 14 3 4 1 4l 2 fx 4 ar 2 49 b 1d 4 3f 1 1i f 15 1 2 2 a 3 ",
   "1d 4 2 2 7 1 1p 3 10 5 1 8 1q 1 c 2 1g 9 a 4 2 1 2n 3 2 1 1 2 6 1 4g 1 3 8 l 2 1l 2 3 1 11 7 ",
   "3 5 5f 8 2 3 1 1 n 1 2c 6 1 1 4 2 1 2 6m 4 6 2 1 2 r 2 2d 8 2 1 1 2 2y 1 1 1 2 6 1 1 2t 3 2 ",
   "4 1 5 77 9 1 2 74 2 1 1 4 1 40 4 2 2 4 1 w 6 2 2 14 6 2 4 8 1 9 6 2 3 1a d 1 2 ba 7 1 6 2c m ",
   "2 7 1 2 1 2 3e 6 3 1 1 2 1 7 1 1 20 2 3 1 1 1 9n 2 f0b 5 1n 7 t4 1 1r 4 29 1 f5k 2 3mp 1a 2 ",
   "n 249 1j 4 1e 8 1 e 1 m 5 1 f 11s 7 1 h 2 7 1 2 1 5 79 7 af 1 1p 4 15s 7 31 7 "]

/-- What has no direction of its own. -/
def neutral : Ranges := Ranges.ofLines
  ["19 1 3t 1 e9 2 b a s 1 3s 1 5na 2 2sh 1 jv 1 n7n 1 47 9 2w 1 "]

/-- Permitted characters of which no direction is known. -/
def unknown : Ranges := Ranges.ofLines
  ["1ov 1 7 1 qs 1 3j 1 m 1 d6 1 2dc f 2 c bi 1 ria 1 1 1 b 1 ijo 1g ng q rq g p 5 1 n 8s 6 1e 6 ",
   "n3 3 8u a 1 1 2 1 1 12 1 a 1 1 2 1 1 4 1 8 d 2 kt k vw 8 2g x f a c6 18 4 a 7q h 1 15 3 5 d ",
   "b 444 1 g m a 32z 5qd 1m 2di 19 3 a 8x p 7y 2 4qs 8 zj 1 9 m 2p 37 6yn 1 y 1 91r 6 9w 1 u8 ",
   "16 5y 17 5h v 1 m 8 2 154p 7 4ma c 5s2 ha 7aq 6ju "]

/-- The marks, which belong to the character before them. -/
def marks : Ranges := Ranges.ofLines
  ["lc 34 7n 7 7b 19 1 1 1 2 1 2 1 1 20 b 1c l g 1 2t 7 2 6 2 2 1 4 z 1 u r 2j b 1m 9 9 1 o 4 1 ",
   "9 1 3 1 5 17 3 1o 8 16 o 1 x 1i 3 1 i 1 7 a 2 t 3 1k 1 1 7 2 2 2 3 9 1 a 2 q 1 2 3 1k 1 1 5 ",
   "4 2 2 3 3 1 u 2 3 1 b 3 1k 1 1 8 1 3 1 3 k 2 m 6 1 3 1k 1 1 7 2 2 2 3 7 3 a 2 u 1 1n 5 3 3 1 ",
   "4 9 1 14 5 1j 1 1 7 1 3 1 4 7 2 b 2 t 3 1k 1 1 7 1 3 1 4 7 2 b 2 s 4 1j 2 1 7 1 3 1 4 9 1 a ",
   "2 t 3 1y 1 4 6 1 1 1 8 i 2 1p 1 2 7 c 8 2q 1 2 9 b 6 22 2 r 1 1 1 1 1 4 2 1d k 1 2 5 b 1 10 ",
   "9 1 2s k n 4 4 3 1 3 2 7 3 4 d c 1 1 a 4 jj 3 qa 4 s 3 t 2 u 2 1s w 9 1 19 3 1 1 39 2 y 1 3a ",
   "c 4 c 63 5 1l a 1 t 2 1 1c v 1d 5 1b h 12 9 c 3 u d 1k e 1c k 48 3 1 l 4 1 6 1 2 3 5i 1s k0 ",
   "x 2da 3 3x 1 2o w fe 6 2x 2 n9w 4 1 a w 2 28 2 7k 1 3 1 4 1 n 5 4 1 2b 2 1e i q i d 1 12 8 p ",
   "d 18 4 1b e 10 1 1v e c 1 8 2 19 3 1e 1 1 3 2 2 5 2 1 1 15 5 5 2 6k 8 1 2 fn4 1 kh g g g r1 ",
   "1 6a 1 45 5 1ae 3 1 2 5 4 14 3 4 1 4l 2 fx 4 ar 2 49 b 1d 4 3e 3 1h f 15 1 2 2 a 4 19 b 7 1 ",
   "1p 3 10 e g 2 18 1 c 3 1c e 8 4 1 2 2k c 6 1 4g c l 4 1j 2 1 7 2 2 2 3 9 1 a 2 2 7 3 5 5c i ",
   "n 1 29 k 6j 7 2 9 r 2 2a h 2y d 2t f 74 f 6t 6 1 2 2 4 1 1 1 2 3x 7 2 7 3 1 s a 14 7 1 4 8 1 ",
   "9 b 1a g b9 8 1 8 2a m 1 e 3e 6 3 1 1 2 1 7 1 1 1u 5 1 2 1 5 9n 4 f09 5 1n 7 t4 1 1 1j 7 4 ",
   "29 1 b 2 f57 2 3mp 1a 2 n f2 5 3 6 8 8 2 7 u 4 44 3 1iz 1j 4 1e 8 1 e 1 m 5 1 f 11s 7 1 h 2 ",
   "7 1 2 1 5 79 7 af 1 1p 4 15s 7 31 7 gzhx 6o "]

end DepView.Domain
