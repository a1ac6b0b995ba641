import DepView.Text.Ranges

/-!
How characters join with their neighbours, and scripts: what the characters that a domain name may
hold in some places only depend on.
-/

namespace DepView.Domain

open Text

/-- What joins nothing and is passed over. -/
def transparent : Ranges := Ranges.ofLines
  ["4t 1 gi 34 7n 7 7b 19 1 1 1 2 1 2 1 1 20 b 1 1 1a l g 1 2t 7 2 6 2 2 1 4 x 1 1 1 u r 2j b 1m ",
   "9 9 1 o 4 1 9 1 3 1 5 17 3 1n 9 16 o 1 w 1j 1 1 1 4 8 4 1 3 7 a 2 t 1 1m 1 4 4 8 1 k 2 q 1 2 ",
   "2 1l 1 4 2 4 2 2 3 3 1 u 2 3 1 b 2 1l 1 4 5 1 2 4 1 k 2 m 6 1 1 1m 1 2 1 1 4 8 1 7 2 b 2 u 1 ",
   "1p 1 c 1 1e 1 3 1 1j 1 1 3 5 3 1 4 7 2 b 2 t 1 1m 1 2 1 6 1 5 2 k 2 s 2 1l 2 4 4 8 1 k 2 t 1 ",
   "20 1 7 3 1 1 2i 1 2 7 c 8 2q 1 2 9 b 7 21 2 r 1 1 1 1 1 1j e 1 5 1 2 5 b 1 10 9 1 2u 4 1 6 1 ",
   "2 2 2 p 2 4 3 g 4 d 1 2 2 6 1 f 1 jj 3 qa 3 t 2 u 2 u 2 1s 2 1 7 8 1 2 b 9 1 19 3 1 1 39 2 y ",
   "1 3a 3 4 2 9 1 6 3 63 2 2 1 1m 1 1 7 1 1 1 1 2 8 6 a 2 1 1c 1a 2 c k 4 1c 1 1 5 1 1 5 1 14 9 ",
   "c 2 w 4 2 2 1 3 1k 1 1 2 3 1 1 3 1m 8 2 2 48 3 1 d 1 7 4 1 6 1 3 2 5i 1s ej 1 2 2 q 5 1d 5 5 ",
   "6 2o x 2da 3 3x 1 2o w fe 4 2z 2 n9w 4 1 a w 2 28 2 7k 1 3 1 4 1 p 2 5 1 47 2 q i d 1 12 8 p ",
   "b 1a 3 1c 1 2 4 2 2 13 1 1v 6 2 2 2 2 c 1 8 1 1b 1 1f 1 1 3 2 2 5 2 1 1 16 2 8 1 6m 1 2 1 4 ",
   "1 fn4 1 kh g g g 5r 1 6x 3 e9 1 6a 1 45 5 1ae 3 1 2 5 4 14 3 4 1 4l 2 fx 4 1t 5 8t 2 25 6 1y ",
   "b 1d 4 3f 1 1i f 15 1 2 2 a 3 1d 4 2 2 7 1 1p 3 10 5 1 8 1q 1 c 2 1g 9 a 4 2 1 2n 3 2 1 1 2 ",
   "6 1 2 1 4d 1 3 8 l 2 1l 2 3 1 11 7 3 5 1y 6 d 1 1 1 1 1 e 2 2d 8 2 3 1 1 n 1 2c 6 1 1 4 2 1 ",
   "2 6m 4 6 2 1 2 r 2 2d 8 2 1 1 2 2y 1 1 1 2 6 1 1 2t 1 1 1 2 4 1 5 77 9 1 2 74 2 1 1 4 1 40 4 ",
   "2 2 4 1 w a 14 6 2 4 8 1 9 6 2 3 1a d 1 2 5i 1 1 3 1 1 5l 7 1 6 1 1 2a m 2 7 1 2 1 2 3e 6 3 ",
   "1 1 2 1 7 1 1 20 2 3 1 1 1 9n 2 b 2 1g 5 5 1 1 1 n 1 445 h 6 f 8ug c 3 3 1xc 5 1n 7 t4 1 1r ",
   "4 29 1 f5k 2 1 4 3mk 1a 2 n f4 3 9 g 2 7 u 4 44 3 1iz 1j 4 1e 8 1 e 1 m 5 1 f 11s 7 1 h 2 7 ",
   "1 2 1 5 2s 1 4g 7 af 1 1p 4 e4 4 72 2 6r 1 2 1 7 2 5 1 d6 7 31 8 gzat 1 u 2o 3k 6o "]

/-- What joins with the character behind it. -/
def joinsLeft : Ranges := Ranges.ofLines
  ["x9u 1 jfe 1 9 1 fc 1 ju 1 "]

/-- What joins on both sides. -/
def joinsBoth : Ranges := Ranges.ofLines
  ["17k 1 5 1 1 1 1 5 4 d 1 7 1 2 z 2 8 g i 12 1 2 9 1 1 1 1 2 14 3 2 1 i 3 5 4 1 9 1 1 1 1 1 2 ",
   "v b 3 f 2 4 1 1 2 3 2 6 22 x 2e 5 2 1 1 a 1 1 a 1 1 4 2 1 t 1 2 5 1 1 g a 5 2 2 6 1 f 30e 1 ",
   "o 2h e y 1 1 sd1 1e jf2 5 e 4 1 5 1 3 a 4 41 1 1 1 3 3 1 2 1 1 2 1 s 2 9e x 1 1 bj 2 1 2 2w ",
   "3 1 h c 3 s 4 2 c 1a 1 1 2 4 1 2 2 1 2 1 1 2 1 5 1 16wl 1w "]

/-- What joins with the character before it. -/
def joinsRight : Ranges := Ranges.ofLines
  ["17m 4 1 1 1 1 5 4 l 1 14 3 1 3 g i 12 1 2 9 1 1 1 1 2 2 1 1 o 2 w 1 4 5 4 1 9 1 1 1 1 1 2 1 ",
   "t 1 b 3 f 2 4 1 1 2 3 2 5i 1 5 2 1 1 a 1 1 3 e 1 1 2 5 j b 1 r 3 1 1 2 2 6 1 1eyz 1 1 1 1 2 ",
   "3 5 a 1 3 1 2 1 a 1 41 1 1 3 3 1 2 1 1 2 1 1 n 4 ad 1 bj 1 34 1 w 1 v 2 1q 3 2 2 2 1 4 2 5 1 "]

/-- The signs that silence a vowel. -/
def viramas : Ranges := Ranges.ofLines
  ["1u5 1 3j 1 3j 1 3j 1 3j 1 3j 1 3j 1 3j 1 31 2 g 1 3g 1 33 1 3j 1 5l 1 50 2 1cp 2 u 1 4d 1 i5 ",
   "1 6b 1 2t 2 1y 2 3gr 1 o7a 1 11 1 47 1 3y 1 30 1 8l 1 6u 1 imp 1 16u 1 15 1 e 1 1l 1 3d 2 3v ",
   "1 38 1 50 1 2q 1 6s 1 3j 1 70 1 3j 1 3a 1 38 1 7h 1 77 2 4h 1 2b 1 i 1 29 1 bp 1 78 2 29 1 "]

/-- The script Greek. -/
def greek : Ranges := Ranges.ofLines
  ["og 4 1 3 2 4 1 1 4 1 1 1 1 3 1 1 1 k 1 1r e g 4yu 5 1e 5 4 5 2c 1 8w m 2 6 2 12 2 6 2 8 1 1 ",
   "1 1 1 1 1 v 2 1h 1 f 1 e 2 6 1 j 2 3 1 9 87 1 rb2 1 gyi 27 h 1 155r 1y "]

/-- The script Hebrew. -/
def hebrew : Ranges := Ranges.ofLines
  ["13l 1j 8 r 4 6 1cfc q 1 5 1 1 1 2 1 2 1 a "]

/-- The script Hiragana. -/
def hiragana : Ranges := Ranges.ofLines
  ["9j5 2e 6 3 23q9 7z i 1 t 3 crx 1 "]

/-- The script Katakana. -/
def katakana : Ranges := Ranges.ofLines
  ["9lt 2i 2 3 6o g 5s 1b 1 2g 14b2 a 1 19 ytu 4 1 7 1 2 1 1 7z 3 1e 1 e 4 "]

/-- The script Han. -/
def han : Ranges := Ranges.ofLines
  ["96o q 1 2h c 5y 1b 1 1 1 p 9 e 4 qs 534 1s g74 hkw a6 2 2y n48 2 c 7 sg9 wyo w 3dq 2 4ge 2 ",
   "5rl f ha 1wi f2 15u 3t7 5 6ju "]

end DepView.Domain
