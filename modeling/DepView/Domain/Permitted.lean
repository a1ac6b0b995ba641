import DepView.Text.Ranges

/-!
The characters that a label of a domain name may hold anywhere: the class PVALID of the rules for
internationalized names.
-/

namespace DepView.Domain

open Text

/-- The code points that are always permitted. -/
def permitted : Ranges := Ranges.ofLines
  ["19 1 2 a 13 q 2s o 1 8 1 1 1 1 1 1 1 1 1 1 1 1 1 1 1 1 1 1 1 1 1 1 1 1 1 1 1 1 1 1 1 1 1 1 1 ",
   "1 1 1 1 1 1 1 1 1 1 1 1 1 1 1 3 1 1 2 1 1 1 1 1 1 3 1 1 1 1 1 1 1 2 1 1 1 1 1 1 1 1 1 1 1 1 ",
   "1 1 1 1 1 1 1 1 1 1 1 1 1 1 1 1 1 1 1 1 1 1 1 1 1 1 1 1 1 1 1 1 1 2 1 1 1 1 1 1 1 2 1 1 1 2 ",
   "1 3 2 4 1 2 1 3 3 2 1 2 1 1 1 1 1 2 1 1 2 1 1 2 1 3 1 1 1 2 3 1 7 a 1 1 1 1 1 1 1 1 1 1 1 1 ",
   "1 1 2 1 1 1 1 1 1 1 1 1 1 1 1 1 1 1 1 1 2 4 1 3 1 1 1 1 1 1 1 1 1 1 1 1 1 1 1 1 1 1 1 1 1 1 ",
   "1 1 1 1 1 1 1 1 1 1 1 1 1 1 1 1 1 1 1 1 1 1 1 1 1 1 1 1 1 1 1 1 1 1 1 1 7 2 1 2 2 1 1 4 1 1 ",
   "1 1 1 1 1 1 2p 9 9 4 c q 1 1 1 h 1s 2 1 3 9 1 w 1 1 1 1 3 1 3 3 i 1 r z 8 1 1 1 1 1 1 1 1 1 ",
   "1 1 1 1 1 1 1 1 1 1 1 1 1 1 1 1 3 1 4 1 2 2 1f 1c 1 1 1 1 1 1 1 1 1 1 1 1 1 1 1 1 1 1 1 1 1 ",
   "1 1 1 1 1 1 1 1 1 1 1 1 1 1 5 3 1 1 1 1 1 1 1 1 1 1 1 1 1 1 1 1 1 1 1 1 1 1 1 1 1 1 1 1 1 1 ",
   "1 1 1 1 1 1 1 1 1 1 1 1 1 1 1 1 1 1 1 1 1 1 1 2 1 1 1 1 1 1 1 1 1 1 1 1 2 1 1 1 1 1 1 1 1 1 ",
   "1 1 1 1 1 1 1 1 1 1 1 1 1 1 1 1 1 1 1 1 1 1 1 1 1 1 1 1 1 1 1 1 1 1 1 1 1 1 1 1 1 1 1 1 1 1 ",
   "1 1 1 1 1 1 1 1 1 1 1 1 1 1 1 1 1 1 1 1 1 1 1 1 1 1 1 1 1 1 1 1 1 1 1 1 1 1 1 1 1 15 1 6 13 ",
   "1 1 8 19 1 1 1 2 1 2 1 1 8 r 4 4 t b 5 w 1 v e 7 4 2j 1 8 2 a 1 6 a 6 g 1n 2 2t e 1i 7 1 2 ",
   "1a i s 4 b 5 o 1 7 7 23 1 39 8 4 2 a 1 j 1 8 2 2 2 m 1 7 1 1 3 4 2 9 2 2 2 4 8 1 8 4 2 c a 1 ",
   "1 1 2 3 1 6 4 2 2 m 1 7 1 1 2 1 2 2 2 1 1 5 4 2 2 3 3 1 a 1 9 g b 3 1 9 1 3 1 m 1 7 1 2 1 5 ",
   "2 a 1 3 1 3 2 1 f 4 2 a 9 7 1 3 1 8 2 2 2 m 1 7 1 2 1 5 2 9 2 2 2 3 7 3 7 5 2 a 1 1 g 2 1 6 ",
   "3 3 1 4 3 2 1 1 1 2 3 2 3 3 3 c 4 5 3 3 1 4 2 1 6 1 e a g d 1 3 1 n 1 g 2 9 1 3 1 4 7 2 1 3 ",
   "1 2 2 4 2 a g 4 1 8 1 3 1 n 1 a 1 5 2 9 1 3 1 4 7 2 5 3 1 4 2 a 1 3 c d 1 3 1 1f 1 3 1 5 5 4 ",
   "7 5 2 a a 6 1 3 1 i 3 o 1 9 1 1 2 7 3 1 4 6 1 1 1 8 6 a 2 2 d 1e 1 7 5 f 1 a 13 2 1 1 1 5 1 ",
   "o 1 1 1 c 1 a 2 5 1 1 1 7 1 a 4 2 w 1 a 1 c 2 6 a b 1 1 1 1 1 4 5 1 4 1 4 1 4 1 4 1 4 1 c 1 ",
   "3 4 2 1 1 5 7 1 3 1 d 1 4 1 4 1 4 1 4 1 4 1 c 1 3 9 1 1l 22 6 26 1e 17 2 3 74 21 1 4 2 7 1 1 ",
   "1 4 2 15 1 4 2 x 1 4 2 7 1 1 1 4 2 f 1 1l 1 4 2 1v 2 3 w g g 2e b h8 2 h 1 q 5 23 6 8 7 m 9 ",
   "m b k c d 1 3 1 2 c 1g 2 u 3 1 4 2 2 a 12 a 6 2h 7 17 5 1y a v 1 c 4 c a 14 2 5 b 18 4 q 6 a ",
   "12 s 4 1r 1 t 2 b 6 a d 1 8 e 1 v 2 c k 25 3 a h 9 c 38 c 1k 8 a 3 1d c 1 1x 3 1 13 5 18 3 1 ",
   "b 1 i 1 s d 1 y 11 1s 1 1 1 1 1 1 1 1 1 1 1 1 1 1 1 1 1 1 1 1 1 1 1 1 1 1 1 1 1 1 1 1 1 1 1 ",
   "1 1 1 1 1 1 1 1 1 1 1 1 1 1 1 1 1 1 1 1 1 1 1 1 1 1 1 1 1 1 1 1 1 1 1 1 1 1 1 1 1 1 1 1 1 1 ",
   "1 1 1 1 1 1 1 1 1 1 1 1 1 1 1 1 1 1 1 1 1 1 1 1 1 1 1 1 1 1 1 1 1 1 1 1 1 1 1 1 1 1 1 1 1 1 ",
   "1 1 1 1 1 1 1 1 1 1 1 1 1 1 1 1 1 1 1 1 1 1 5 2 2 1 1 1 1 1 1 1 1 1 1 1 1 1 1 1 1 1 1 1 1 1 ",
   "1 1 1 1 1 1 1 1 1 1 1 1 1 1 1 1 1 1 1 1 1 1 1 1 1 1 1 1 1 1 1 1 1 1 1 1 1 1 1 1 1 1 1 1 1 1 ",
   "1 1 1 1 1 1 1 1 1 1 1 1 1 1 1 1 1 1 1 1 1 1 1 1 1 1 1 1 1 1 9 8 6 a 8 8 8 8 6 a 8 8 8 8 1 1 ",
   "1 1 1 1 1 1 1 1 1 1 1 1f 2 4 1 f 1 9 3 3 2 8 3 1 4 e 1 9j 1 1h 1 23v 1c 1 1 3 2 1 1 1 1 1 1 ",
   "4 1 1 2 1 6 5 1 1 1 1 1 1 1 1 1 1 1 1 1 1 1 1 1 1 1 1 1 1 1 1 1 1 1 1 1 1 1 1 1 1 1 1 1 1 1 ",
   "1 1 1 1 1 1 1 1 1 1 1 1 1 1 1 1 1 1 1 1 1 1 1 1 1 1 1 1 1 1 1 1 1 1 1 1 1 1 1 1 1 1 1 1 1 1 ",
   "1 1 1 1 1 1 1 1 1 1 1 1 1 2 7 1 1 4 1 1 c 12 1 1 5 1 2 1k n o 9 7 1 7 1 7 1 7 1 7 1 7 1 7 1 ",
   "7 1 w 1b 1 d1 3 y 4 e 1 4 2e 2 2 2 2 2 2i 1 3 6 17 34 w 1c g e8 534 1s h3h 1v 1a 2 7h 3 s l ",
   "1 1 1 1 1 1 1 1 1 1 1 1 1 1 1 1 1 1 1 1 1 1 1 1 1 1 1 1 1 1 1 1 1 1 1 1 1 1 1 1 1 1 1 1 3 4 ",
   "a 1 1 1 1 1 1 1 1 1 1 1 1 1 1 1 1 1 1 1 1 1 1 1 1 1 1 1 1 1 1 2 20 a 2 11 9 3 1 1 1 1 1 1 1 ",
   "1 1 1 1 1 3 1 1 1 1 1 1 1 1 1 1 1 1 1 1 1 1 1 1 1 1 1 1 1 1 1 1 1 1 1 1 1 1 1 1 1 1 1 1 1 1 ",
   "1 1 1 1 1 1 1 1 1 1 1 1 1 1 1 1 1 1 1 1 1 1 1 8 1 1 1 1 2 1 1 1 1 1 1 1 1 2 3 1 1 2 1 1 1 3 ",
   "1 1 1 1 1 1 1 1 1 1 1 1 1 1 1 1 1 1 1 1 5 1 5 1 1 1 1 1 1 1 1 1 1 1 1 1 1 1 4 1 1 1 2 1 1 1 ",
   "1 1 1 1 1 1 1 1 1 1 1 1 q 2 2 1a 4 1 j 1g c 1y a a 6 o 3 1 1 1d 2 10 18 1t e b 6 v 1 1j 9 e ",
   "2 a 6 n 3 21 o 3 2 g 2 5 a 6 2 6 2 6 9 7 1 7 1 17 5 9 2f 17 1 2 2 a 6 8mc 6sq 2 1 1 1 2 a 1 ",
   "1 1 1 2 2 3 6s 1 ld g 1v 1 b0 c 1 q 1 j 1 2 1 f 2 e y 3f 76 1 3m t 3 1d f 1 v w d k 1 8 6 17 ",
   "5 u 2 10 4 8 2g 3a 2 a 1a 10 4 14 8 1g 1f b 1 f 1 7 1 2 3 1g c 8n 9 m a 8 o 1 3j 6 2 1 1 18 ",
   "1 2 3 1 2 n a n 9 v 1t j 1 2 a m a q 6 q 12 1k 6 2 1s 4 1 2 5 8 1 3 1 t 2 3 4 1 w t 3 t z 8 ",
   "1 u p 1i a m a j d i 32 21 3b 1f d 14 8 a 6 g p 5 1 n 6y 16 1 2 3 2 g 6 1e z a 1 8 x v m 16 ",
   "l r n 9 1z v g 9 1o 7 1 d p 7 a 6 1h 1 a 4 4 8 10 2 1 9 1x 4 4 1 d 1 1 z i 1 11 6 4 1q 7 1 1 ",
   "1 4 1 f 1 a 7 1n 5 a 6 4 1 8 2 2 2 m 1 7 1 2 1 5 1 a 2 2 2 3 2 1 6 1 5 7 2 7 3 5 b a 1 1 2 1 ",
   "1 12 1 a 1 1 2 1 1 4 1 8 d 2 t 23 5 a 4 4 u 1y 1 1 8 a 4m 1i 2 9 n 6 y 1t 3 1 b a 12 1l 7 a ",
   "6 k s r 2 f 4 a 6 7 55 1n 3p 16 l 8 2 1 2 8 1 2 1 u 1 2 2 9 c a 1y 8 2 1a 2 8 1 2 r 1r 8 1 8 ",
   "22 3 1 i 21 2v 8 2g x f a 6 9 1 19 1 9 f a o u 2 m 1 e 21 7 1 2 1 18 3 1 1 2 1 9 8 a 6 6 1 2 ",
   "1 11 1 2 1 6 7 a 6 18 4 a 6u n 9 h 1 15 3 5 d b 2d 1 27 pm 6e 5g 218 2p f ts g m a 32z 5 g7 ",
   "5a1 1m 1c6 ft 7 v 1 a 6 27 1 a 6 u 2 5 b 1j 9 4 c a 9 l 5 j c0 19 3 a 6e w 1n p 18 23 4 1l 7 ",
   "h 1s 2 1 2 b 4 c 5p2 15 w 2p 37 6pp 4 1 7 1 2 1 83 f 1 t 3 2 1 e 4 8 b0 1s4 2z 5 d 3 9 7 a 3 ",
   "2 3mp 1a 2 n 249 1j 4 1e 8 1 e 1 m 5 1 f uo v 6 6 5x 7 1 h 2 7 1 2 1 5 2s 1 34 19 3 e 2 a 4 ",
   "1 8x v h 1m d2 16 5y 17 5h v 1 m 8 2 68 7 1 4 1 2 1 f 1 5h b 7 23 16 4 a 4h2 wyo w 3dq 2 4ge ",
   "2 5rl f ha 3he 3t7 5 6ju "]

end DepView.Domain
