import DepView.Text.Ranges

/-!
The characters that GB 18030 adds to GBK. Some take two bytes; the others take four, which count all
code points that are left.
-/

namespace DepView.Charset

/-- A run of places with the code points from `first` on. -/
structure CodeRun where
  place : Nat
  count : Nat
  first : Nat
deriving Repr

/-- The runs for numbers in turn: how many places are left out before a run, how many there are in
it, and its first code point. -/
def codeRuns (place : Nat) : List Nat → List CodeRun
  | skipped :: count :: first :: rest =>
    ⟨place + skipped, count, first⟩ :: codeRuns (place + skipped + count) rest
  | _ => []

/-- The characters of two bytes, in rows of 190. -/
def gb18030Pairs : List CodeRun :=
  codeRuns 0 (Text.numerals
  ["4ow 2o 196u 2m 2o 199i a 6 19pi 1e 1 6gc 0 1 19pp a 2 19pq c 2 19ps 0 2o 19c6 2m 2o 19eu 2b ",
   "b 19pu 0 2o 19hi 2e 8 19q5 0 2o 19k6 o 8 19qd o 7 19ql c 2 19qs 5 1 19qu 2 9 19qv 0 2o 19mu ",
   "x f 19r4 x d 19rj 2d b 19rw r 1 19s7 2 1 e1 1 4 19s9 11 l 19sd o 1 19sy 2 1 19sz 1 3 19t0 14 ",
   "1 9j2 0 c 9gw 1 d 19tg 24 f 19tt 2o 2m 188w 2o 2m 18bi 2o 2m 18e4 2o 2m 18gq 2o 2m 18jc 2o ",
   "2m 18ly 5uz 5 19u8 4rk 2m 18ok 2o 2m 18r6 2o 2m 18ts 2o 2m 18we 2o 2m 18z0 2o 2m 191m g 1 ",
   "96p 0 3 19ue 0 1 96s 0 1 acz 0 1 abr 0 1 96w 0 1 96z 0 1 19um 0 1 ala 0 1 aoq 0 1 aoe 0 1 ",
   "970 0 1 97b 0 1 bce 0 1 ba0 0 1 19uu 0 1 bf3 0 1 bfj 0 1 bjn 0 1 bf4 0 2 19uz 0 1 bpq 0 1 ",
   "bxq 0 1 c0w 0 1 97r 0 2 19v5 0 1 97u 0 1 cpi 0 1 cwv 0 1 97y 0 1 d9z 0 1 983 0 2 986 0 1 ",
   "19vf 0 1 ddd 0 1 dd8 0 1 98b 0 1 del 0 1 dli 0 1 dwh 0 1 dvw 0 1 19vn 0 1 e1v 0 1 e21 0 1 ",
   "e4c 0 1 e4t 0 1 98q 0 1 eh3 0 1 eii 0 1 eil 0 2 eiq 0 2 eit 0 1 ejj 0 1 ejf 0 1 ek7 0 1 ek6 ",
   "0 2 19w4 0 1 f4z 0 3 f4v 0 1 f3r 0 1 f4y 0 7 f83 0 1 fce 0 1 19wk 0 2m 1948 "])

/-- The numbers of the four bytes from which on the code points of the basic plane are counted anew,
each with its code point. -/
def gb18030Fours : List (Nat × Nat) :=
  pairs (Text.numerals
  ["0 3k 10 4l 12 4p 19 4y 1e 54 29 60 2h 6a 2n 6j 2o 6m 2s 6s 2v 6w 2w 6z 2x 71 31 76 3i 7o 3p ",
   "7w 44 8c 4s 91 4v 95 4z 9a 5s a4 8i cv 8j cx 8k cz 8l d1 8m d3 8n d5 8o d7 8p d9 9h e2 bw gi ",
   "cb gy f4 js f5 jw fi ka kl pu km q2 kt qq ku qy md si mr uo ms uq 642 6c1 644 6c7 645 6ca ",
   "647 6ce 64e 6cn 64n 6cx 64o 6d0 64p 6d2 64u 6d8 67y 6gd 6ac 6is 6ad 6iu 6ag 6iy 6as 6jb 6b2 ",
   "6jm 6cs 6lo 6cw 6m2 6di 6ms 6dk 6my 6gm 6q1 6gs 6q8 6gt 6qa 6gw 6qe 6h0 6qj 6h2 6qp 6h4 6qs ",
   "6h5 6qu 6h6 6r0 6h8 6r3 6hd 6rc 6hi 6ri 6hs 6rt 6hv 6rx 6i0 6s3 6id 6si 6if 6so 6il 6sw 6jm ",
   "6ty 6jp 6u2 6k0 6ue 6kp 6v4 6mz 6xf 6w8 76y 6wi 78c 6za 7d8 6ze 7ec 6zr 7f4 6zu 7fa 704 7fm ",
   "70k 7g4 70s 7ge 710 7go 713 7gs 715 7gw 71n 7hi 72i 7if 72k 7ii 742 7k1 743 7k3 8qp 96q 8qr ",
   "96t 8qu 96x 8qw 971 8r6 97c 8rl 97s 8rn 97v 8rq 97z 8ru 984 8rw 988 8rz 98c 8sd 98r 90i 9h8 ",
   "90m 9hg 90n 9i0 90s 9i7 90u 9ii 91e 9j3 91g 9lg 91n 9lr 91p 9o7 91u 9of 920 9pm 98u 9wq 991 ",
   "9wy 9c6 a04 9io a6o 9j0 a73 9j2 a76 9k0 a85 9k9 a8f 9kb a8j 9kd a8m 9ni abs 9op ad0 9wz alb ",
   "a02 aof a0d aor alm ba1 anz bcf aqn bf5 ar1 bfk av4 bjo b16 bpr b95 bxr bca c0x c0v cpj c87 ",
   "cww cla da0 coi dd9 com dde cpt dem cwp dlj d72 dvx d7m dwi dcz e1w dd4 e22 dfe e4d dfu e4u ",
   "ds3 eh4 dth eij dtj eim dtn eis dto eiv du8 ejg dub ejk dux ek8 eeg f3s efj f50 eim f8a emq ",
   "fcf eoz vja ptp 19po ptq 19s8 ptr 19t3 pu4 19ud pu5 19uh pua 19un puh 19uv pul 19v1 pup 19v7 ",
   "pux 19vg pv4 19vo pvk 19w6 pvy 19wl t79 1d7x t9d 1da2 ta4 1dau tcd 1dd4 tcm 1dde tdc 1de8 ",
   "tdd 1dea tde 1ded tdh 1deh tdn 1deq tdo 1det tdq 1dey u6c 1e7m u6d 1e85 u6h 1e8j u6i 1e8o ",
   "u6j 1e93 u6k 1e98 uap 1efz uea 1ejq "])
where
  pairs : List Nat → List (Nat × Nat)
    | n :: code :: rest => (n, code) :: pairs rest
    | _ => []

end DepView.Charset
