import FleetHealth.Unicode.Runs

/- The three classifications that text segmentation uses. -/
namespace FleetHealth.Unicode

/-- Classes for the rules on where a user-perceived character ends. -/
def graphemeBreaks : Table := [
  ("cn control",
    "0.9 1.1 1.h 2n.w d 12m 3jl 1ks 2.1 o.6 1d.f 17yn 6o.b ab8.f qxs.3 43z.7 h405.v 2o.3j 6o.2rz"),
  ("cr",
    "d"),
  ("ex extend",
    "lc.33 7n.6 7b.18 1 1.1 1.1 1 20.a 1c.k g 2t.6 2.5 2.1 1.3 z u.q 2j.a 1m.8 9 o.3 1.8 1.2 " ++
    "1.4 17.2 1o.7 16.n 1.v 1j 1 4.7 4 3.6 a.1 t 1m 1 2.3 8 9 a.1 q 2.1 1l 4.1 4.1 2.2 3 u.1 " ++
    "3 b.1 1l 4.4 1.1 4 k.1 m.5 1 1m 1.1 1.3 8 7.2 a.1 u 1n 1 c 9 14 3 1j 1.2 5.2 1.3 7.1 " ++
    "b.1 t 1m 2 2 3 5.1 7.1 b.1 s.1 1l.1 1 2.3 8 9 a.1 t 20 4 2.2 1 8 29 2.6 c.7 2q 2.8 b.6 " ++
    "21.1 r 1 1 1j.d 1.4 1.1 5.a 1.z 9 2u.3 1.5 1.1 2.1 p.1 4.2 g.3 d 2.1 6 f jj.2 qa.2 t.1 " ++
    "u.1 u.1 1s.1 1.6 8 2.a 9 19.2 1 39.1 y 3a.2 4.1 9 6.2 63.1 2 1m 1.6 1 1 2.7 6.9 2 1c.u " ++
    "1d.3 1c.6 1 5 14.8 c.1 w.3 2.1 1.2 1k 1.1 3 1.2 1m.7 2.1 48.2 1.c 1.6 4 6 3.1 5i.1r ek " ++
    "5f.w 2da.2 3x 2o.v fe.5 2x.1 n9w.3 1.9 w.1 28.1 7k 3 4 p.1 5 47.1 q.h d 12.7 p.a 1a.2 " ++
    "1c 2.3 2.1 13 1v.5 2.1 2.1 c 8 1b 1f 1.2 2.1 5.1 1 16.1 8 6m 2 4 fn4 kh.f g.f a6.1 gt " ++
    "6a 45.4 1ae.2 1.1 5.3 14.2 4 4l.1 fx.3 ar.1 28.2 1y.a 1d.3 3f 1i.e 15 2.1 a.2 1d.3 2.1 " ++
    "7 1p.2 10.4 1.7 1q c.1 1g.8 a.3 2 2n.2 2 1.1 6 2 4d 3.7 l.1 1l.1 1 1 m e.6 3.4 5f.7 2.2 " ++
    "1 n 29 2.5 1 2 1.1 1.1 6j 2.3 6.1 1.1 r.1 2d.7 2 1.1 2y 1 2.5 1 2t.2 2.3 1.4 77.8 1.1 " ++
    "6t a.1 1 4 40.3 2.1 4 w.9 14.5 2.3 8 9.5 2.2 1a.c 1.1 ba.6 1.5 1 2a.l 2.6 1.1 1.1 3e.5 " ++
    "3 1.1 1.6 1 20.1 3 1 9n.1 b.1 1g.4 5 1 459 6.e asa.4 1n.6 t4 1r.3 29 f5k.1 3mp.19 2.m " ++
    "f2 1.2 4.4 8.7 2.6 u.3 44.2 1iz.1i 4.1d 8 e m.4 1.e 11s.6 1.g 2.6 1.1 1.4 2s 4g.6 af " ++
    "1p.3 e4.3 rk.6 31.6 240.4 gx7k.2n 3k.6n"),
  ("l",
    "3cw.2n u0w.s"),
  ("lf",
    "a"),
  ("lv",
    "xz4 r r r r r r r r r r r r r r r r r r r r r r r r r r r r r r r r r r r r r r r r r r " ++
    "r r r r r r r r r r r r r r r r r r r r r r r r r r r r r r r r r r r r r r r r r r r r " ++
    "r r r r r r r r r r r r r r r r r r r r r r r r r r r r r r r r r r r r r r r r r r r r " ++
    "r r r r r r r r r r r r r r r r r r r r r r r r r r r r r r r r r r r r r r r r r r r r " ++
    "r r r r r r r r r r r r r r r r r r r r r r r r r r r r r r r r r r r r r r r r r r r r " ++
    "r r r r r r r r r r r r r r r r r r r r r r r r r r r r r r r r r r r r r r r r r r r r " ++
    "r r r r r r r r r r r r r r r r r r r r r r r r r r r r r r r r r r r r r r r r r r r r " ++
    "r r r r r r r r r r r r r r r r r r r r r r r r r r r r r r r r r r r r r r r r r r r r " ++
    "r r r r r r r r r r r r r r r r r r r r r r r r r r r r r r r r r r r r r r r r r r r r " ++
    "r r r r"),
  ("lvt",
    "xz5.q 1.q 1.q 1.q 1.q 1.q 1.q 1.q 1.q 1.q 1.q 1.q 1.q 1.q 1.q 1.q 1.q 1.q 1.q 1.q 1.q " ++
    "1.q 1.q 1.q 1.q 1.q 1.q 1.q 1.q 1.q 1.q 1.q 1.q 1.q 1.q 1.q 1.q 1.q 1.q 1.q 1.q 1.q 1.q " ++
    "1.q 1.q 1.q 1.q 1.q 1.q 1.q 1.q 1.q 1.q 1.q 1.q 1.q 1.q 1.q 1.q 1.q 1.q 1.q 1.q 1.q 1.q " ++
    "1.q 1.q 1.q 1.q 1.q 1.q 1.q 1.q 1.q 1.q 1.q 1.q 1.q 1.q 1.q 1.q 1.q 1.q 1.q 1.q 1.q 1.q " ++
    "1.q 1.q 1.q 1.q 1.q 1.q 1.q 1.q 1.q 1.q 1.q 1.q 1.q 1.q 1.q 1.q 1.q 1.q 1.q 1.q 1.q 1.q " ++
    "1.q 1.q 1.q 1.q 1.q 1.q 1.q 1.q 1.q 1.q 1.q 1.q 1.q 1.q 1.q 1.q 1.q 1.q 1.q 1.q 1.q 1.q " ++
    "1.q 1.q 1.q 1.q 1.q 1.q 1.q 1.q 1.q 1.q 1.q 1.q 1.q 1.q 1.q 1.q 1.q 1.q 1.q 1.q 1.q 1.q " ++
    "1.q 1.q 1.q 1.q 1.q 1.q 1.q 1.q 1.q 1.q 1.q 1.q 1.q 1.q 1.q 1.q 1.q 1.q 1.q 1.q 1.q 1.q " ++
    "1.q 1.q 1.q 1.q 1.q 1.q 1.q 1.q 1.q 1.q 1.q 1.q 1.q 1.q 1.q 1.q 1.q 1.q 1.q 1.q 1.q 1.q " ++
    "1.q 1.q 1.q 1.q 1.q 1.q 1.q 1.q 1.q 1.q 1.q 1.q 1.q 1.q 1.q 1.q 1.q 1.q 1.q 1.q 1.q 1.q " ++
    "1.q 1.q 1.q 1.q 1.q 1.q 1.q 1.q 1.q 1.q 1.q 1.q 1.q 1.q 1.q 1.q 1.q 1.q 1.q 1.q 1.q 1.q " ++
    "1.q 1.q 1.q 1.q 1.q 1.q 1.q 1.q 1.q 1.q 1.q 1.q 1.q 1.q 1.q 1.q 1.q 1.q 1.q 1.q 1.q 1.q " ++
    "1.q 1.q 1.q 1.q 1.q 1.q 1.q 1.q 1.q 1.q 1.q 1.q 1.q 1.q 1.q 1.q 1.q 1.q 1.q 1.q 1.q 1.q " ++
    "1.q 1.q 1.q 1.q 1.q 1.q 1.q 1.q 1.q 1.q 1.q 1.q 1.q 1.q 1.q 1.q 1.q 1.q 1.q 1.q 1.q 1.q " ++
    "1.q 1.q 1.q 1.q 1.q 1.q 1.q 1.q 1.q 1.q 1.q 1.q 1.q 1.q 1.q 1.q 1.q 1.q 1.q 1.q 1.q 1.q " ++
    "1.q 1.q 1.q 1.q 1.q 1.q 1.q 1.q 1.q 1.q 1.q 1.q 1.q 1.q 1.q 1.q 1.q 1.q 1.q 1.q 1.q 1.q " ++
    "1.q 1.q 1.q 1.q 1.q 1.q 1.q 1.q 1.q 1.q 1.q 1.q 1.q 1.q 1.q 1.q 1.q 1.q 1.q 1.q 1.q 1.q " ++
    "1.q 1.q 1.q 1.q 1.q 1.q 1.q 1.q 1.q 1.q 1.q 1.q 1.q 1.q 1.q 1.q 1.q 1.q 1.q 1.q 1.q 1.q " ++
    "1.q 1.q 1.q 1.q"),
  ("pp prepend",
    "16o.5 5z 1d ao.1 28 vf 1f8u f 6s.1 1h7 1 6w 21.5 jg cb"),
  ("ri regionalindicator",
    "2qcm.p"),
  ("sm spacingmark",
    "1s3 1j 2.2 8.3 1.1 1e.1 1n.1 6.1 2.1 1i 1m.2 1u 1m.2 8 1.1 1h.1 1o 6.1 2.1 36 1.1 3.2 " ++
    "1.2 1g.2 1p.3 1p.1 1m 1.1 1.1 2.1 1.1 13 e.1 1n.1 5.2 1.2 1h.1 24.1 6.6 j.1 1r 3j 3u.1 " ++
    "1r 4x 9.1 p.1 18 1ao u 3l 7.7 1.1 9m.3 2.2 4.1 1.5 68.1 1m 1 l.5 41 1i 1.4 1.1 1p u 4.1 " ++
    "2 1o 2.2 1 3.1 1c.7 8.1 4r l rhn.1 2 2g.1 1e.f 3y.1 1b 1c.1 4.1 2.2 32.1 2.1 o 4d 2.1 5 " ++
    "6l.1 1.1 1.1 1 jrn 1 3j 19.2 4.1 37 o.1 1n 1c.2 9.1 d 2l.2 3.1 1 4q.2 v.1 1n 1.3 2.1 " ++
    "2.2 k.1 5t.2 8.1 3 2z.1 6 1.1 1 2 6m.1 6.3 2 35.2 8.1 1 31 1.1 6 33 79.2 9 6w.4 1.1 4 2 " ++
    "1 3y.2 8.3 4 2c t.1 1q bb e 2y 7 2 5x.4 4.1 1 9q.1 c 1c.1 8.1 1 ftb.1i 2w.1 j90 6"),
  ("t",
    "3hk.2f 132j.1c"),
  ("v",
    "3fk.1z 1348.m"),
  ("zwj",
    "6bx")]

/-- Classes for the rules on where a word ends. -/
def wordBreaks : Table := [
  ("cr",
    "d"),
  ("dq doublequote",
    "y"),
  ("ex extendnumlet",
    "2n 6a7 f.1 j 17tq.1 o.2 6n"),
  ("extend",
    "lc.33 7n.6 7b.18 1 1.1 1.1 1 20.a 1c.k g 2t.6 2.5 2.1 1.3 z u.q 2j.a 1m.8 9 o.3 1.8 1.2 " ++
    "1.4 17.2 1o.7 16.n 1.w 1i.2 1.h 1.6 a.1 t.2 1k 1.6 2.1 2.2 9 a.1 q 2.2 1k 1.4 4.1 2.2 3 " ++
    "u.1 3 b.2 1k 1.7 1.2 1.2 k.1 m.5 1.2 1k 1.6 2.1 2.2 7.2 a.1 u 1n.4 3.2 1.3 9 14.4 1j " ++
    "1.6 1.2 1.3 7.1 b.1 t.2 1k 1.6 1.2 1.3 7.1 b.1 f c.3 1j.1 1.6 1.2 1.3 9 a.1 t.2 1y 4.5 " ++
    "1 1.7 i.1 1p 2.6 c.7 2q 2.8 b.6 21.1 r 1 1 4.1 1d.j 1.1 5.a 1.z 9 2s.j n.3 4.2 1.2 2.6 " ++
    "3.3 d.b 1 a.3 jj.2 qa.3 s.2 t.1 u.1 1s.v 9 19.2 1 39.1 y 3a.b 4.b 63.4 1l.9 1.s 2 1c.u " ++
    "1d.4 1b.g 12.8 c.2 u.c 1k.d 1c.j 48.2 1.k 4 6 2.2 5i.1r ek 5f.w 2da.2 3x 2o.v fe.5 2x.1 " ++
    "n9w.3 1.9 w.1 28.1 7k 3 4 n.4 4 2b.1 1e.h q.h d 12.7 p.c 18.3 1b.d 10 1v.d c 8.1 19.2 " ++
    "1e 1.2 2.1 5.1 1 15.4 5.1 6k.7 1.1 fn4 kh.f g.f a6.1 gt 6a 45.4 1ae.2 1.1 5.3 14.2 4 " ++
    "4l.1 fx.3 ar.1 28.2 1y.a 1d.3 3e.2 1h.e 15 2.1 a.3 19.a 7 1p.2 10.d g.1 18 c.2 1c.d 8.3 " ++
    "1.1 2k.b 6 2 4d.b l.3 1j.1 1.6 2.1 2.2 9 a.1 2.6 3.4 5c.h n 29.j 6j.6 2.8 r.1 2a.g 2y.c " ++
    "2t.e 74.e 6t.5 1.1 2.3 1 1.1 3x.6 2.6 3 s.9 14.6 1.3 8 9.a 1a.f b9.7 1.7 2a.l 1.d 3e.5 " ++
    "3 1.1 1.6 1 1u.4 1.1 1.4 9n.3 9.1 1 1c.6 3.4 459 6.e asa.4 1n.6 t4 1.1i 7.3 29 b.1 " ++
    "f57.1 3mp.19 2.m f2.4 3.5 8.7 2.6 u.3 44.2 1iz.1i 4.1d 8 e m.4 1.e 11s.6 1.g 2.6 1.1 " ++
    "1.4 2s 4g.6 af 1p.3 e4.3 rk.6 31.6 240.4 gx7k.2n 3k.6n"),
  ("fo format",
    "4t 11u.5 m 5c 1d ao.1 28 2zv 1kv.1 q.4 1d.4 1.9 17yn 6x.2 3b5 f 6zm.f qxs.3 43z.7 h406"),
  ("hl hebrewletter",
    "15c.q 4.3 1cfe 1.9 1.c 1.4 1 1.1 1.1 1.9"),
  ("ka katakana",
    "9ip.4 2t.1 3.2i 1.3 6o.f 5s.1a 1.2f 14b2.1j ytu.3 1.6 1.1 1 7z.2 1e e.3"),
  ("le aletter",
    "1t.p 6.p 1b a 4 5.m 1.u 1.db 6.x 34.4 1.1 2.3 1 6 1.2 1 1.j 1.2a 1.3u 8.4l 1.11 2.3 1 " ++
    "1.14 1 2w 18.16 z.1 1.2q 1 f.1 7.1 a.2 2 g 1.t t.2g b o.w 9.1 4 5.l 4 9 3 n.o 7.a 5.n " ++
    "1.5 h.15 1m.1h 3 i 7.9 f.f 4.7 2.1 2.l 1.6 1 3.3 3 g d.1 1.2 e.1 a 8.5 4.1 2.l 1.6 1.1 " ++
    "1.1 1.1 v.3 1 j.2 g.8 1.2 1.l 1.6 1.1 1.4 3 i f.1 n b.7 2.1 2.l 1.6 1.1 1.4 3 u.1 1.2 f " ++
    "h 1.5 3.2 1.3 3.1 1 1.1 3.1 3.2 3.b m 1g.7 1.2 1.m 1.f 3 q.2 2 2.1 u 4.7 1.2 1.m 1.9 " ++
    "1.4 3 v.1 1.1 f.1 h.8 1.2 1.14 2 g 5.2 8.2 o.5 5.h 3.n 1.8 1 2.6 8p 1r.7 1.z r.4 7n.11 " ++
    "1 5 2.16 1.98 1.3 2.6 1 1.3 2.14 1.3 2.w 1.3 2.6 1 1.3 2.e 1.1k 1.3 2.1u 11.f g.2d 2.5 " ++
    "3.h7 2.g 1.p 5.22 3.a 7.h d.i e.h e.c 1.2 4v.2g 7.4 2.x 1 5.1x a.u 69.m 6m.1a h.7 1i.t " ++
    "d.1 a.17 q.z 15.2 a.z 2.8 7.16 2.2 15.3 1.5 1.1 3 5.5b 1s.7p 2.5 2.11 2.5 2.7 1 1 1 1.u " ++
    "2.1g 1.6 1 3.2 1.6 3.3 2.5 4.c 5.2 1.6 38 d g.c 2t 4 2.9 1 3.4 6 1 1 1.3 1.a 2.3 5.4 4 " ++
    "h.14 ml.1f 1ee.6c 6.3 3.1 c.11 1 5 2.1j 7 g.m 9.6 1.6 1.6 1.6 1.6 1.6 1.6 1.6 28 d1 " ++
    "1h.1 5k.16 1.2l h.v ls0.wc 1v.19 2.7g 3.f a.1 k.1a g.u 2.27 o.5e 5.1 1 1.4 o.f 1.2 1.3 " ++
    "1.m t.1f e.1d 1q.5 3 1.1 b.r a.m p.s 7.1a s 1c.14 n.2 1.7 44.a 7.2 c.5 2.5 2.5 9.6 1.6 " ++
    "1.1l 6.36 t.8mb c.m 4.1c 6x0.6 c.4 1k.2p x.a2 i.1r 2.1h 14.b 38.4 1.3q 10.p 6.p 1x.u " ++
    "3.5 2.5 2.5 2.2 z.b 1.p 1.i 1.1 1.e 2.d y.3e 1x.1g 7f.s 3.1c 1b.v d.t 5.11 a.t 2.z 4.7 " ++
    "1.4 16.4d i.z 4.z 4.13 8.1f c.a 1.e 1.6 1.1 1.a 1.e 1.6 1.1 1v.8m 9.l a.7 o.5 1.15 1.8 " ++
    "1x.5 2 1.17 1.1 3 2.m a.m 9.u 1t.i 1.1 a.l a.p 1y.1j 6.1 1s f.3 1.2 1.s 16.s 3.s z.7 " ++
    "1.r r.1h a.l a.i d.h 32.20 1j.1e d.1e d.z 9o.15 6.1 26.s a 8.l 16.h 1a.k r.m c.1g 1l.1 " ++
    "2 d.18 w.o q.z t 2 8.y 3 c.1b e.3 l 1 z.h 1.o j.1 1r.6 1 1.3 1.e 1.9 7.1a 12.7 2.1 2.l " ++
    "1.6 1.1 1.4 3 i c.4 4e.1g i.3 k.2 u.1b k.1 1 54.1a 15.3 10.1b k 1n.16 d 93.17 38.1r v.7 " ++
    "2 2.7 1.1 1.n f 1 2m.7 2.12 g 1 s a.13 7 l b.19 j i.20 7b.8 1.10 h 1d.t 34.6 1.1 1.11 l " ++
    "p.5 1.1 1.v e 93.i f 1.c 1.x 3g 27.pl 2u.32 h.5f 218.2o f.tr h.5 33t.g6 6nt.fs 7.u h.26 " ++
    "h.t i.1b g.3 v.k 5.i j4.1r 3k.22 5 1u.c 1s.1 1 f18.2y 5.c 3.8 7.9 4me.2c 1.1y 1.1 2 2.1 " ++
    "2.3 1.b 1 1.6 1.1s 1.3 2.7 1.6 1.r 1.3 1.4 1 3.6 1.9f 2.o 1.o 1.u 1.o 1.u 1.o 1.u 1.o " ++
    "1.u 1.o 1.7 1f8.u 6.5 79.1p 42.18 a.6 g 8x.t i.17 dg.r l0.6 1.3 1.1 1.e 1.5g 1n.1v 7 " ++
    "xg.3 1.q 1.1 1 2 1.9 1.3 1 1 6 4 1 1 1.2 1.1 1 2 1 1 1 1 1.1 1 2.3 1.6 1.3 1.3 1 1.9 " ++
    "1.g 5.2 1.4 1.g hg.p 6.p 6.p"),
  ("lf",
    "a"),
  ("mb midnumlet",
    "1a 6ax.1 a 17vx 50 6"),
  ("ml midletter",
    "1m 3g jz d3 44 56a 17u3 1t 5g"),
  ("mn midnum",
    "18 e n6 ei 3m.1 2m az 4sr 17t7 3 1n 3 53 e"),
  ("nl newline",
    "b.1 3c 68y.1"),
  ("nu numeric",
    "1c.9 17q.9 1 3o.9 5i.9 bg.9 3a.9 3a.9 3a.9 3a.9 3a.9 3a.9 3a.9 3a.9 3a.9 2o.9 3a.9 1y.9 " ++
    "7q.9 1y.9 1fq.9 12.9 8c.9 3k.9 4m.9 6.9 52.9 2e.9 3q.9 6.9 r7q.9 iu.9 12.9 5i.9 m.9 " ++
    "2e.9 ba.9 geu.9 13a.9 1om.9 mk.9 3k.9 1o.9 40.9 7q.9 9i.9 3a.9 ae.9 2u.9 2u.9 bq.9 2u.9 " ++
    "l2.9 6u.9 1y.9 bq.9 eti.9 2e.9 3q.9 lf8.1d 1ts.9 bq.9 dy.9 uu.9 3o6.9"),
  ("ri regionalindicator",
    "2qcm.p"),
  ("sq singlequote",
    "13"),
  ("wsegspace",
    "w 4f3 1vj.6 1.2 2c 334"),
  ("zwj",
    "6bx")]

/-- Classes for the rules on where a sentence ends. -/
def sentenceBreaks : Table := [
  ("at aterm",
    "1a 6b9 17vx 57"),
  ("cl close",
    "y 4.2 1d 1 t 1 19 f 2v2.3 1gd.1 1vf.7 p.1 a.1 1i.1 e.1 hl.3 t.1 ts.5 7.d 27.1 v.9 b7.l " ++
    "1r.3 w.1 si.d e.1 2.9 o i.7 bv.9 2.7 1.2 14im.1 5z.1 s.f 2.1 g.5 4p.1 1d 1 t 1 1.1 1.1 " ++
    "1csy.2"),
  ("cr",
    "d"),
  ("ex extend",
    "lc.33 7n.6 7b.18 1 1.1 1.1 1 20.a 1c.k g 2t.6 2.5 2.1 1.3 z u.q 2j.a 1m.8 9 o.3 1.8 1.2 " ++
    "1.4 17.2 1o.7 16.n 1.w 1i.2 1.h 1.6 a.1 t.2 1k 1.6 2.1 2.2 9 a.1 q 2.2 1k 1.4 4.1 2.2 3 " ++
    "u.1 3 b.2 1k 1.7 1.2 1.2 k.1 m.5 1.2 1k 1.6 2.1 2.2 7.2 a.1 u 1n.4 3.2 1.3 9 14.4 1j " ++
    "1.6 1.2 1.3 7.1 b.1 t.2 1k 1.6 1.2 1.3 7.1 b.1 f c.3 1j.1 1.6 1.2 1.3 9 a.1 t.2 1y 4.5 " ++
    "1 1.7 i.1 1p 2.6 c.7 2q 2.8 b.6 21.1 r 1 1 4.1 1d.j 1.1 5.a 1.z 9 2s.j n.3 4.2 1.2 2.6 " ++
    "3.3 d.b 1 a.3 jj.2 qa.3 s.2 t.1 u.1 1s.v 9 19.2 1 39.1 y 3a.b 4.b 63.4 1l.9 1.s 2 1c.u " ++
    "1d.4 1b.g 12.8 c.2 u.c 1k.d 1c.j 48.2 1.k 4 6 2.2 5i.1r ek.1 5e.w 2da.2 3x 2o.v fe.5 " ++
    "2x.1 n9w.3 1.9 w.1 28.1 7k 3 4 n.4 4 2b.1 1e.h q.h d 12.7 p.c 18.3 1b.d 10 1v.d c 8.1 " ++
    "19.2 1e 1.2 2.1 5.1 1 15.4 5.1 6k.7 1.1 fn4 kh.f g.f a6.1 gt 6a 45.4 1ae.2 1.1 5.3 14.2 " ++
    "4 4l.1 fx.3 ar.1 28.2 1y.a 1d.3 3e.2 1h.e 15 2.1 a.3 19.a 7 1p.2 10.d g.1 18 c.2 1c.d " ++
    "8.3 1.1 2k.b 6 2 4d.b l.3 1j.1 1.6 2.1 2.2 9 a.1 2.6 3.4 5c.h n 29.j 6j.6 2.8 r.1 2a.g " ++
    "2y.c 2t.e 74.e 6t.5 1.1 2.3 1 1.1 3x.6 2.6 3 s.9 14.6 1.3 8 9.a 1a.f b9.7 1.7 2a.l 1.d " ++
    "3e.5 3 1.1 1.6 1 1u.4 1.1 1.4 9n.3 9.1 1 1c.6 3.4 459 6.e asa.4 1n.6 t4 1.1i 7.3 29 b.1 " ++
    "f57.1 3mp.19 2.m f2.4 3.5 8.7 2.6 u.3 44.2 1iz.1i 4.1d 8 e m.4 1.e 11s.6 1.g 2.6 1.1 " ++
    "1.4 2s 4g.6 af 1p.3 e4.3 rk.6 31.6 gzbp.2n 3k.6n"),
  ("fo format",
    "4t 11u.5 m 5c 1d ao.1 28 2zv 1ks 2.1 q.4 1d.4 1.9 17yn 6x.2 3b5 f 6zm.f qxs.3 43z.7 h406"),
  ("le oletter",
    "cb 4.3 5s 10.6 6.b q 1 3p dg 3a.q 4.4 18.16 z.1 1.2q 1 f.1 7.1 a.2 2 g 1.t t.2g b o.w " ++
    "9.1 4 5.l 4 9 3 n.o 7.a 5.n 1.5 h.15 1m.1h 3 i 7.9 f.f 4.7 2.1 2.l 1.6 1 3.3 3 g d.1 " ++
    "1.2 e.1 a 8.5 4.1 2.l 1.6 1.1 1.1 1.1 v.3 1 j.2 g.8 1.2 1.l 1.6 1.1 1.4 3 i f.1 n b.7 " ++
    "2.1 2.l 1.6 1.1 1.4 3 u.1 1.2 f h 1.5 3.2 1.3 3.1 1 1.1 3.1 3.2 3.b m 1g.7 1.2 1.m 1.f " ++
    "3 q.2 2 2.1 u 4.7 1.2 1.m 1.9 1.4 3 v.1 1.1 f.1 h.8 1.2 1.14 2 g 5.2 8.2 o.5 5.h 3.n " ++
    "1.8 1 2.6 1m.1b 1.1 c.6 1m.1 1 1.4 1.n 1 1.9 1.1 9 2.4 1 l.3 w 1r.7 1.z r.4 37.16 k g.5 " ++
    "4.3 3 3.1 7.2 4.c c 1t.16 2.97 1.3 2.6 1 1.3 2.14 1.3 2.w 1.3 2.6 1 1.3 2.e 1.1k 1.3 " ++
    "2.1u 11.f 35.h7 2.g 1.p 5.22 3.a 7.h d.i e.h e.c 1.2 f.1f z 4 1v.2g 7.4 2.x 1 5.1x a.u " ++
    "1d.t 2.4 b.17 4.p 1i.m 9.1g 2a 2l.1a h.7 1i.t d.1 a.17 q.z 15.2 a.z i.16 2.2 15.3 1.5 " ++
    "1.1 3 u2.3 1z.2 2.3 2av.1j 7 g.m 9.6 1.6 1.6 1.6 1.6 1.6 1.6 1.6 28 d1.2 p.8 7.4 2.4 " ++
    "4.2d 6.2 1.2h 1.3 5.16 1.2l h.v 1c.f e8.533 1s.h3g 1v.19 2.7g 3.f a.1 1u g w.27 13.8 2w " ++
    "6 2v 3.6 1.2 1.3 1.m t.1f e.1d 1q.5 3 1.1 b.r a.m p.s 7.1a s g.4 1.9 a.4 1.14 n.2 1.7 " ++
    "k.m 3 3.1d 1 3.1 2.4 2 1 o.2 2.a 7.2 c.5 2.5 2.5 9.6 1.6 41.y t.8mb c.m 4.1c 6is.a5 " ++
    "2.2x 1v 1.9 1.c 1.4 1 1.1 1.1 1.2z x.a2 i.1r 2.1h 14.b 38.4 1.3q 2x.1j 2.u 3.5 2.5 2.5 " ++
    "2.2 z.b 1.p 1.i 1.1 1.e 2.d y.3e 1x.1g 7f.s 3.1c 1b.v d.t 5.11 a.t 2.z 4.7 1.4 3e.25 " ++
    "2q.13 8.1f 4c.8m 9.l a.7 p.1 3h.5 2 1.17 1.1 3 2.m a.m 9.u 1t.i 1.1 a.l a.p 1y.1j 6.1 " ++
    "1s f.3 1.2 1.s 16.s 3.s z.7 1.r r.1h a.l a.i d.h 32.20 53.z 9o.15 6.1 26.s a 8.l 16.h " ++
    "1a.k r.m c.1g 1l.1 2 d.18 w.o q.z t 2 8.y 3 c.1b e.3 l 1 z.h 1.o j.1 1r.6 1 1.3 1.e 1.9 " ++
    "7.1a 12.7 2.1 2.l 1.6 1.1 1.4 3 i c.4 4e.1g i.3 k.2 u.1b k.1 1 54.1a 15.3 10.1b k 1n.16 " ++
    "d 1z.q 11.6 55.17 5v.7 2 2.7 1.1 1.n f 1 2m.7 2.12 g 1 s a.13 7 l b.19 j i.20 7b.8 1.10 " ++
    "h 1d.t 34.6 1.1 1.11 l p.5 1.1 1.v e 93.i f 1.c 1.x 3g 27.pl 2u.32 h.5f 218.2o f.tr h.5 " ++
    "33t.g6 6nt.fs 7.u h.26 h.t i.1b g.3 v.k 5.i og.22 5 1u.c 1s.1 1 s.4qf 8.yd 16.8 6w7.3 " ++
    "1.6 1.1 1.82 f t.2 2 e.3 8.az 1s4.2y 5.c 3.8 7.9 6sw dx.18 a.6 g 8x.t i.17 dg.r l0.6 " ++
    "1.3 1.1 1.e 1.5g 3q xg.3 1.q 1.1 1 2 1.9 1.3 1 1 6 4 1 1 1.2 1.1 1 2 1 1 1 1 1.1 1 2.3 " ++
    "1.6 1.3 1.3 1 1.9 1.g 5.2 1.4 1.g 3es.wyn w.37d 6.65 2.4g1 e.5rk 2e7.f1 15u.3t6 5.38f"),
  ("lf",
    "a"),
  ("lo lower",
    "2p.p 1b a 4 10.n 1.7 1 1 1 1 1 1 1 1 1 1 1 1 1 1 1 1 1 1 1 1 1 1 1 1 1 1 1 1.1 1 1 1 1 " ++
    "1 1 1 1.1 1 1 1 1 1 1 1 1 1 1 1 1 1 1 1 1 1 1 1 1 1 1 1 2 1 1.2 2 1 2 3.1 4 2 3.2 2 2 1 " ++
    "1 2 1.1 1 2 3 1 2.1 2.2 6 2 2 1 1 1 1 1 1 1 1.1 1 1 1 1 1 1 1 1 1.1 2 1 3 1 1 1 1 1 1 1 " ++
    "1 1 1 1 1 1 1 1 1 1 1 1 1 1 1 1 1 1 1 1 1 1.6 2 2.1 1 4 1 1 1 1.1w 1.z 7.1 u.4 3w 1 3 " ++
    "2.3 i r.y 1.1 3.2 1 1 1 1 1 1 1 1 1 1 1 1.4 1 2 2.1 1f.1b 1 1 1 1 1 1 1 1 1 1 1 1 1 1 1 " ++
    "1 1 9 1 1 1 1 1 1 1 1 1 1 1 1 1 1 1 1 1 1 1 1 1 1 1 1 1 1 2 1 1 1 1 1 1.1 1 1 1 1 1 1 1 " ++
    "1 1 1 1 1 1 1 1 1 1 1 1 1 1 1 1 1 1 1 1 1 1 1 1 1 1 1 1 1 1 1 1 1 1 1 1 1 1 1 1 1 1c.14 " ++
    "29f l7.5 1oi.8 3b.5b 1t 1 1 1 1 1 1 1 1 1 1 1 1 1 1 1 1 1 1 1 1 1 1 1 1 1 1 1 1 1 1 1 1 " ++
    "1 1 1 1 1 1 1 1 1 1 1 1 1 1 1 1 1 1 1 1 1 1 1 1 1 1 1 1 1 1 1 1 1 1 1 1 1 1 1 1 1 1.8 1 " ++
    "1 1 1 1 1 1 1 1 1 1 1 1 1 1 1 1 1 1 1 1 1 1 1 1 1 1 1 1 1 1 1 1 1 1 1 1 1 1 1 1 1 1 1 1 " ++
    "1 1 1 1.8 8.5 a.7 8.7 8.5 a.7 8.7 8.d 2.7 8.7 8.7 8.4 1.1 6 3.2 1.1 8.3 2.1 8.7 a.2 1.1 " ++
    "3d d g.c 31 3.1 3 r 4 4 2.1 8.3 4 x.f 4 nf.p 1fq.1b 1 3.1 1 1 1 4 1.1 1.7 3 1 1 1 1 1 1 " ++
    "1 1 1 1 1 1 1 1 1 1 1 1 1 1 1 1 1 1 1 1 1 1 1 1 1 1 1 1 1 1 1 1 1 1 1 1 1 1 1 1 1 1 1.1 " ++
    "7 1 4 c.11 1 5 nwz 1 1 1 1 1 1 1 1 1 1 1 1 1 1 1 1 1 1 1 1 1 1 j 1 1 1 1 1 1 1 1 1 1 1 " ++
    "1 1.2 3p 1 1 1 1 1 1.2 1 1 1 1 1 1 1 1 1 1 1 1 1 1 1 1 1 1 1 1 1 1 1 1 1 1 1 1 1 1 1.9 " ++
    "1 1 2 1 1 1 1 4 1 2 1.2 1 1 1 1 1 1 1 1 1 1 5 5 1 1 1 1 1 1 1 4 1 6 1 1 1 1 o.2 1 1.2 " ++
    "mt.16 1.d 6.27 fnk.6 c.4 tl.p y5.13 3s.z 4b.a 1.e 1.6 1.1 cj 2.2 1.15 1.8 zp.1e 2bx.v " ++
    "gw0.v k2i.p q.6 1.h q.p q.3 1 1.6 1.a q.p q.p q.p q.p q.p q.p q.p q.p q.r s.o 1.5 q.o " ++
    "1.5 q.o 1.5 q.o 1.5 q.o 1.5 1 1f8.9 1.j 6.5 79.1p 1pw.x"),
  ("nu numeric",
    "1c.9 17q.9 1.1 3n.9 5i.9 bg.9 3a.9 3a.9 3a.9 3a.9 3a.9 3a.9 3a.9 3a.9 3a.9 2o.9 3a.9 " ++
    "1y.9 7q.9 1y.9 1fq.9 12.9 8c.9 3k.9 4m.9 6.9 52.9 2e.9 3q.9 6.9 r7q.9 iu.9 12.9 5i.9 " ++
    "m.9 2e.9 ba.9 geu.9 13a.9 1om.9 mk.9 3k.9 1o.9 40.9 7q.9 9i.9 3a.9 ae.9 2u.9 2u.9 bq.9 " ++
    "2u.9 l2.9 6u.9 1y.9 bq.9 eti.9 2e.9 3q.9 lf8.1d 1ts.9 bq.9 dy.9 uu.9 3o6.9"),
  ("sc scontinue",
    "18.1 c 10i 4u.1 dm 361 5 1l6.1 358 14pa.1 1 t.1 t.1 3 2 a 4o.1 c 21"),
  ("se sep",
    "3p 68y.1"),
  ("sp",
    "9 1.1 j 3j 4bj 1vj.a 10 1b 334"),
  ("st sterm",
    "x t 11l 43.2 50 17.2 6u 1p 1 3.1 85.1 1d0.1 ly 4.1 lh 5i.1 5o 5 8q.1 9u.3 4u.1 2.1 t.1 " ++
    "58.1 1t.1 qk.1 9.2 2qs d m.1 bx n3w 7i.1 6b 3 am.1 2e.1 2n 48.1 43.2 40.1 6x ga2.1 4p t " ++
    "1t 25w.1 zh.4 18.3 59.1 39.3 3j.2 3l.1 6 g.1 2g.1 1.1 30 bl.1 ad.1 5.e 2x.1 6x.2 ed 1 " ++
    "6z.1 2f.1 bo.1 j8.1 22.1 euh.1 3p 1t.1 b nn feu 5wo"),
  ("up upper",
    "1t.p 2t.m 1.6 x 1 1 1 1 1 1 1 1 1 1 1 1 1 1 1 1 1 1 1 1 1 1 1 1 1 1 1 2 1 1 1 1 1 1 1 2 " ++
    "1 1 1 1 1 1 1 1 1 1 1 1 1 1 1 1 1 1 1 1 1 1 1.1 1 1 3.1 1 1.1 1.2 2.3 1.1 1.2 3.1 1.1 1 " ++
    "1 1.1 1 2 1.1 1.2 1 1.1 3 7.1 1.1 1.1 1 1 1 1 1 1 1 1 2 1 1 1 1 1 1 1 1 2.1 1 1.2 1 1 1 " ++
    "1 1 1 1 1 1 1 1 1 1 1 1 1 1 1 1 1 1 1 1 1 1 1 1 1 1 7.1 1.1 2 1.3 1 1 1 1 81 1 3 8 6 " ++
    "1.2 1 1.1 1.g 1.8 z 2.2 3 1 1 1 1 1 1 1 1 1 1 1 5 2 1.1 2.1e 1c 1 1 1 1 1 1 1 1 1 1 1 1 " ++
    "1 1 1 1 9 1 1 1 1 1 1 1 1 1 1 1 1 1 1 1 1 1 1 1 1 1 1 1 1 1 1 1.1 1 1 1 1 1 1 2 1 1 1 1 " ++
    "1 1 1 1 1 1 1 1 1 1 1 1 1 1 1 1 1 1 1 1 1 1 1 1 1 1 1 1 1 1 1 1 1 1 1 1 1 1 1 1 1 1 1 " ++
    "2.11 289.11 1 5 k2.2d 1ze 1 1 1 1 1 1 1 1 1 1 1 1 1 1 1 1 1 1 1 1 1 1 1 1 1 1 1 1 1 1 1 " ++
    "1 1 1 1 1 1 1 1 1 1 1 1 1 1 1 1 1 1 1 1 1 1 1 1 1 1 1 1 1 1 1 1 1 1 1 1 1 1 1 1 1 1 1 9 " ++
    "1 1 1 1 1 1 1 1 1 1 1 1 1 1 1 1 1 1 1 1 1 1 1 1 1 1 1 1 1 1 1 1 1 1 1 1 1 1 1 1 1 1 1 1 " ++
    "1 1 1 1 9.7 8.5 a.7 8.7 8.5 b 1 1 1 8.7 o.7 8.7 8.7 8.4 b.4 b.3 c.4 b.4 79 4 3.2 2.2 2 " ++
    "3.4 6 1 1 1.3 2.3 a.1 5 q.f j mq.p 1f4.1b 1c 1.2 2 1 1 1.3 1 2 8.2 1 1 1 1 1 1 1 1 1 1 " ++
    "1 1 1 1 1 1 1 1 1 1 1 1 1 1 1 1 1 1 1 1 1 1 1 1 1 1 1 1 1 1 1 1 1 1 1 1 1 1 1 8 1 4 nyl " ++
    "1 1 1 1 1 1 1 1 1 1 1 1 1 1 1 1 1 1 1 1 1 1 j 1 1 1 1 1 1 1 1 1 1 1 1 1 3r 1 1 1 1 1 1 " ++
    "3 1 1 1 1 1 1 1 1 1 1 1 1 1 1 1 1 1 1 1 1 1 1 1 1 1 1 1 1 1 1 a 1 1.1 1 1 1 1 4 1 2 1 3 " ++
    "1 1 1 1 1 1 1 1 1 1.4 1.4 1 1 1 1 1 1 1 1.3 1 6 5 1 s h7v.p xx.13 3s.z 4c.a 1.e 1.6 1.1 " ++
    "1d6.1e 2ct.v gw0.v k2o.p q.p q.p q 1.1 2 2.1 2.3 1.7 q.p q.1 1.3 2.7 1.6 r.1 1.3 1.4 1 " ++
    "3.6 r.p q.p q.p q.p q.p q.p u.o x.o x.o x.o x.o x 3ed.x 1la.p 6.p 6.p")]

end FleetHealth.Unicode
