import FleetHealth.Unicode.Runs

/- The general categories that characters are in: every character is in exactly one. -/
namespace FleetHealth.Unicode

def categories : Table := [
  ("cc control cntrl",
    "0.v 2n.w"),
  ("cf format",
    "4t 11u.5 m 5c 1d ao.1 28 2zv 1ks.4 q.4 1d.4 1.9 17yn 6x.2 3b5 f 6zm.f qxs.3 43z.7 h406 u.2n"),
  ("cn unassigned",
    "oo.1 6.3 7 1 k b1 12.1 1e.1 3 1j.7 r.3 6.a 7i 1o.1 2t.d 1n.1 1d.1 f s.1 1 b.4 v 2.5 6k " ++
    "8.1 2.1 m 7 1.2 4.1 9.1 2.1 4.7 1.3 2 5.1 p.1 3 6.3 2.1 m 7 2 2 2.1 1 5.3 2.1 3.2 1.6 4 " ++
    "1.6 h.9 3 9 3 m 7 2 5.1 a 3 3.1 1.e 4.1 c.6 7 3 8.1 2.1 m 7 2 5.1 9.1 2.1 3.6 3.3 2 5.1 " ++
    "i.9 2 6.2 3 4.2 2 1 2.2 2.2 3.2 c.3 5.2 3 4.1 1.5 1.d l.4 d 3 n g.1 9 3 4.6 2 3.1 1.1 " ++
    "4.1 a.6 m 3 n a 5.1 9 3 4.6 2.5 2 4.1 a 3.b d 3 1f 3 6.3 g.1 q 3 i.2 o 9 1.1 7.2 1.3 6 " ++
    "1 8.5 a.1 3.b 1m.3 t.10 2 1 5 o 1 n.1 5 1 7 a.1 4.v 20 10.3 13 10 f d.10 5i 1.4 1.1 ah " ++
    "4.1 7 1 4.1 15 4.1 x 4.1 7 1 4.1 f 1l 4.1 1v.1 w.2 q.5 2e.1 6.1 il.2 2h.6 m.8 o.8 k.b d " ++
    "3 2.b 2m.1 a.5 a.5 q.5 2h.6 17.4 1y.9 v c.3 c.3 1.2 16.1 5.a 18.3 q.5 b.2 1q.1 1t t.1 " ++
    "b.5 a.5 e.1 v.1c 25.2 1b 38.7 1o.2 f.2 1o.6 17.1 b.7 17.4 eu.1 6.1 12.1 6.1 8 1 1 1 v.1 " ++
    "1h f e.1 6 j.1 3 9 2t c.1 r d.2 x.e x.e 3w.3 if.o b.k 1ec.1 w 9p.4 19 1.4 1.1 1k.6 2.d " ++
    "o.8 7 7 7 7 7 7 7 7 3i.x q 2h.b 5y.p c.3 1s 2e.1 2v.4 17 2m 2c.b 1b mlp.2 1j.8 9o.j " ++
    "54.7 5n.4 2 1 5.n 1n.2 a.5 1k.7 1y.7 c.5 38.a u.2 26 b.3 x 1j.8 e.1 a.1 2v.n s.9 6.1 " ++
    "6.1 6.8 7 7 1o.3 3i.1 a.5 8mc.b n.3 1d.3 6su.1 2y.11 7.b 5.4 q 5 1 2 2 3h.f cd.1 1i.6 " ++
    "1.v 16.5 1f j 4.3 5 3r.1 1 5a.2 6.1 6.1 6.1 3.2 7 7.9 5.1 c q j 2 f.1 e.x 3f.4 3.3 19.2 " ++
    "2g d.2 1.1a 1a.3l t.2 1d.e s.3 10.8 u.4 17.4 u 11.3 e.15 4e.1 a.5 10.3 10.3 14.7 1g.a c " ++
    "f 7 2 b f 7 2.1u 8n.8 m.9 8.n 6 16 9.1w 6.1 1 18 2.2 1.1 n 20.7 9.1b j 2.4 x.2 r.4 1.1r " ++
    "1k.3 k.1 1e 2.4 8 3 t.1 3.3 a.6 9.6 1s.v 13.3 c.8 1i.2 t.1 r.4 q.6 4.b 7.27 21.1i 1f.c " ++
    "1f.6 1a.7 a.85 v 16 3.1 2.22 17.7 16.l q.11 s.j n.8 26.3 10.8 1w.9 1.1 p.6 a.5 1h i.7 " ++
    "13.8 2o k.a i 1b.1p 7 1 4 f b.5 1n.4 a.5 4 8.1 2.1 m 7 2 5 a.1 2.1 3.1 1.5 1.4 7.1 7.2 " ++
    "5.3u 2k 5.t 20.7 a.4l 1i.1 12.x 1x.a a.5 d.i 1m.5 a.1h r.1 f.3 n.54 1o.2r 2b.b 8.1 1.1 " ++
    "8 2 u 2.1 c.8 a.1x 8.1 1a.1 b.q 20.7 2b.c 21.6 a.6t 9 19 e.9 t.2 w.1 m e.20 7 2 18.2 1 " ++
    "2 9.7 a.5 6 2 11 2 6.6 a.8l p.6 h 15.2 s.2d 1.e 1e.c pn.2t 33 5.a 5g.217 2r.c uu.33d " ++
    "g7.6ns ft.6 v a.3 29 a.5 u.1 6.9 1y.9 a 7 l.4 j.j3 2j.2s 23.3 1l.6 h.1r 5.a 2.d 4qg.7 " ++
    "ye.15 9.6w6 4 7 2 83.e 1.s 3.1 1.d 4.7 b0.1s3 2z.4 d.2 9.6 a.1 8.3mj 1a.1 n.8 38.1n " ++
    "6u.9 13.1 5e.k 1y.3d k.b k.b 2f.8 p.3q 2d 1z 2.1 1.1 2.1 4 c 1 7 1t 4.1 8 7 s 4 5 1.2 7 " ++
    "9g.1 84.1 ji.e 5 f.un v.5 6.5w 7 h.1 7 2 5.4 1q.w 1.33 19.2 e.1 a.3 2.8v v.g 1m.4 1.cv " ++
    "16.kl 7 4 2 f 5h.1 g.14 24.3 a.3 2.ls 1w.23 1p.5d 4 r 2 1.1 1 a 4 1 1.5 1.3 1 1 1 3 2 " ++
    "1.1 1 1 1 1 1 2 1.1 4 7 4 4 1 a h.4 3 5 h.1f 2.7h 18.3 2s.b f.1 f f 11.9 4u.1j t.c 18.3 " ++
    "9.6 2.d 6.49 rc.3 h.2 d.2 3b.3 2n.5 c.3 1.e c.3 1k.7 a.5 14.7 u.1 2.25 9g.b e.1 d.2 9.6 " ++
    "1a 7.7 e.3 9.6 9.6 43 1j.10 a.sl wyo.v 37e.5 66.1 4g2.d 5rl.2e6 f2.15t 3t7.4 38g.f974 " ++
    "1.t 2o.3j 6o.1e6n 1eke.1 1eke.1"),
  ("co privateuse",
    "188w.4xr jpc0.1ekd 2.1ekd"),
  ("ll lowercaseletter",
    "2p.p 1m 15.n 1.7 1 1 1 1 1 1 1 1 1 1 1 1 1 1 1 1 1 1 1 1 1 1 1 1 1 1 1 1.1 1 1 1 1 1 1 " ++
    "1 1.1 1 1 1 1 1 1 1 1 1 1 1 1 1 1 1 1 1 1 1 1 1 1 1 2 1 1.2 2 1 2 3.1 4 2 3.2 2 2 1 1 2 " ++
    "1.1 1 2 3 1 2.1 2.2 6 2 2 1 1 1 1 1 1 1 1.1 1 1 1 1 1 1 1 1 1.1 2 1 3 1 1 1 1 1 1 1 1 1 " ++
    "1 1 1 1 1 1 1 1 1 1 1 1 1 1 1 1 1 1 1 1.6 2 2.1 1 4 1 1 1 1.1w 1.q 5d 1 3 3.2 i r.y 1.1 " ++
    "3.2 1 1 1 1 1 1 1 1 1 1 1 1.4 1 2 2.1 1f.1b 1 1 1 1 1 1 1 1 1 1 1 1 1 1 1 1 1 9 1 1 1 1 " ++
    "1 1 1 1 1 1 1 1 1 1 1 1 1 1 1 1 1 1 1 1 1 1 2 1 1 1 1 1 1.1 1 1 1 1 1 1 1 1 1 1 1 1 1 1 " ++
    "1 1 1 1 1 1 1 1 1 1 1 1 1 1 1 1 1 1 1 1 1 1 1 1 1 1 1 1 1 1 1 1 1 1 1c.14 287.16 2.2 " ++
    "l4.5 1oi.8 3b.17 1r.c 1.x 2u 1 1 1 1 1 1 1 1 1 1 1 1 1 1 1 1 1 1 1 1 1 1 1 1 1 1 1 1 1 " ++
    "1 1 1 1 1 1 1 1 1 1 1 1 1 1 1 1 1 1 1 1 1 1 1 1 1 1 1 1 1 1 1 1 1 1 1 1 1 1 1 1 1 1 1 1 " ++
    "1.8 1 1 1 1 1 1 1 1 1 1 1 1 1 1 1 1 1 1 1 1 1 1 1 1 1 1 1 1 1 1 1 1 1 1 1 1 1 1 1 1 1 1 " ++
    "1 1 1 1 1 1 1.8 8.5 a.7 8.7 8.5 a.7 8.7 8.d 2.7 8.7 8.7 8.4 1.1 6 3.2 1.1 8.3 2.1 8.7 " ++
    "a.2 1.1 7m 3.1 3 r 4 4 2.1 8.3 4 1h 23v.1b 1 3.1 1 1 1 4 1.1 1.5 5 1 1 1 1 1 1 1 1 1 1 " ++
    "1 1 1 1 1 1 1 1 1 1 1 1 1 1 1 1 1 1 1 1 1 1 1 1 1 1 1 1 1 1 1 1 1 1 1 1 1 1 1.1 7 1 4 " ++
    "c.11 1 5 nwz 1 1 1 1 1 1 1 1 1 1 1 1 1 1 1 1 1 1 1 1 1 1 j 1 1 1 1 1 1 1 1 1 1 1 1 1 3r " ++
    "1 1 1 1 1 1.2 1 1 1 1 1 1 1 1 1 1 1 1 1 1 1 1 1 1 1 1 1 1 1 1 1 1 1 1 1 1 1 1.7 1 1 2 1 " ++
    "1 1 1 4 1 2 1.2 1 1 1 1 1 1 1 1 1 1 5 5 1 1 1 1 1 1 1 4 1 6 1 1 1 1 s 3 mt.16 5.8 7.27 " ++
    "fnk.6 c.4 tl.p y5.13 3s.z 4b.a 1.e 1.6 1.1 1dv.1e 2bx.v gw0.v k2i.p q.6 1.h q.p q.3 1 " ++
    "1.6 1.a q.p q.p q.p q.p q.p q.p q.p q.p q.r s.o 1.5 q.o 1.5 q.o 1.5 q.o 1.5 q.o 1.5 1 " ++
    "1f8.9 1.j 6.5 1yv.x"),
  ("lm modifierletter",
    "j4.h 4.b e.4 7 1 3p 5 da 6e 4k.1 7h.1 4 v 9 3 4g 4n yc 3j fp 1cq 2z gz cw.5 4u.1q d " ++
    "y.10 j5 d g.c 2cf.1 6p 5b d1 17.4 5 2p.1 2l.2 lxy yq.5 7i 36 s.1 3d.8 28 n 2x.2 3.1 d1 " ++
    "m 3t 30 l.1 2v.3 9 gli 19.1 1k0.5 1.15 1.8 jnp.3 un.c 1s.1 1 cng.3 1.6 1.1 9ip.1p 5l.6 " ++
    "q5 v3"),
  ("lo otherletter",
    "4q f 74 4.3 5s mz.q 4.3 19.v 1.9 z.1 1.2q 1 o.1 a.2 2 g 1.t t.2g b o.w l.l 16.o 7.a 5.n " ++
    "1.5 h.14 1n.1h 3 i 7.9 g.e 4.7 2.1 2.l 1.6 1 3.3 3 g d.1 1.2 e.1 a 8.5 4.1 2.l 1.6 1.1 " ++
    "1.1 1.1 v.3 1 j.2 g.8 1.2 1.l 1.6 1.1 1.4 3 i f.1 n b.7 2.1 2.l 1.6 1.1 1.4 3 u.1 1.2 f " ++
    "h 1.5 3.2 1.3 3.1 1 1.1 3.1 3.2 3.b m 1g.7 1.2 1.m 1.f 3 q.2 2 2.1 u 4.7 1.2 1.m 1.9 " ++
    "1.4 3 v.1 1.1 f.1 h.8 1.2 1.14 2 g 5.2 8.2 o.5 5.h 3.n 1.8 1 2.6 1m.1b 1.1 c.5 1n.1 1 " ++
    "1.4 1.n 1 1.9 1.1 9 2.4 n.3 w 1r.7 1.z r.4 37.16 k g.5 4.3 3 3.1 7.2 4.c c 35.94 1.3 " ++
    "2.6 1 1.3 2.14 1.3 2.w 1.3 2.6 1 1.3 2.e 1.1k 1.3 2.1u 11.f 35.h7 2.g 1.p 5.22 6.7 7.h " ++
    "d.i e.h e.c 1.2 f.1f 14 1v.y 1.1g 7.4 2.x 1 5.1x a.u 1d.t 2.4 b.17 4.p 1i.m 9.1g 4w.1a " ++
    "h.7 1i.t d.1 a.17 q.z 15.2 a.t 35.3 1.5 1.1 3 u2.3 2d3.1j o.m 9.6 1.6 1.6 1.6 1.6 1.6 " ++
    "1.6 1.6 fb 1h 4.2d 8 1.2h 4 5.16 1.2l h.v 1c.f e8.533 1s.g7o 1.vq 1v.13 8.7f 4.f a.1 1u " ++
    "1d.1x 4p 2v 3.6 1.2 1.3 1.m t.1f e.1d 1q.5 3 1.1 b.r a.m p.s 7.1a 19.4 2.8 a.4 1.14 n.2 " ++
    "1.7 k.f 1.5 3 3.1d 1 3.1 2.4 2 1 o.1 3.a 7 e.5 2.5 2.5 9.6 1.6 41.y t.8mb c.m 4.1c " ++
    "6is.a5 2.2x 1v 1.9 1.c 1.4 1 1.1 1.1 1.2z x.a2 i.1r 2.1h 14.b 38.4 1.3q 2x.9 1.18 2.u " ++
    "3.5 2.5 2.5 2.2 z.b 1.p 1.i 1.1 1.e 2.d y.3e at.s 3.1c 1b.v d.j 1.7 6.11 a.t 2.z 4.7 " ++
    "3k.25 2q.13 8.1f 4c.8m 9.l a.7 48.5 2 1.17 1.1 3 2.m a.m 9.u 1t.i 1.1 a.l a.p 1y.1j 6.1 " ++
    "1s f.3 1.2 1.s 16.s 3.s z.7 1.r r.1h a.l a.i d.h 32.20 53.z 9o.15 6.1 26.s a 8.l 16.h " ++
    "1a.k r.m c.1g 1l.1 2 d.18 w.o q.z t 2 8.y 3 c.1b e.3 l 1 z.h 1.o j.1 1r.6 1 1.3 1.e 1.9 " ++
    "7.1a 12.7 2.1 2.l 1.6 1.1 1.4 3 i c.4 4e.1g i.3 k.2 u.1b k.1 1 54.1a 15.3 10.1b k 1n.16 " ++
    "d 1z.q 11.6 55.17 5v.7 2 2.7 1.1 1.n f 1 2m.7 2.12 g 1 s a.13 7 l b.19 j i.20 7b.8 1.10 " ++
    "h 1d.t 34.6 1.1 1.11 l p.5 1.1 1.v e 93.i f 1.c 1.x 3g 27.pl 6e.5f 218.2o f.tr h.5 " ++
    "33t.g6 6nt.fs 7.u h.26 h.t i.1b 1f.k 5.i og.22 5 4v.4qf 8.yd 16.8 6wn.82 f t.2 2 e.3 " ++
    "8.az 1s4.2y 5.c 3.8 7.9 6sw dx.18 x 8x.t i.17 dg.q l1.6 1.3 1.1 1.e 1.5g 117.3 1.q 1.1 " ++
    "1 2 1.9 1.3 1 1 6 4 1 1 1.2 1.1 1 2 1 1 1 1 1.1 1 2.3 1.6 1.3 1.3 1 1.9 1.g 5.2 1.4 1.g " ++
    "3es.wyn w.37d 6.65 2.4g1 e.5rk 2e7.f1 15u.3t6 5.38f"),
  ("lt titlecaseletter",
    "cl 2 2 12 5ud.7 8.7 8.7 c f 1b"),
  ("lu uppercaseletter",
    "1t.p 2t.m 1.6 x 1 1 1 1 1 1 1 1 1 1 1 1 1 1 1 1 1 1 1 1 1 1 1 1 1 1 1 2 1 1 1 1 1 1 1 2 " ++
    "1 1 1 1 1 1 1 1 1 1 1 1 1 1 1 1 1 1 1 1 1 1 1.1 1 1 3.1 1 1.1 1.2 2.3 1.1 1.2 3.1 1.1 1 " ++
    "1 1.1 1 2 1.1 1.2 1 1.1 3 7 2 2 2 1 1 1 1 1 1 1 2 1 1 1 1 1 1 1 1 2 2 1.2 1 1 1 1 1 1 1 " ++
    "1 1 1 1 1 1 1 1 1 1 1 1 1 1 1 1 1 1 1 1 1 1 7.1 1.1 2 1.3 1 1 1 1 81 1 3 8 6 1.2 1 1.1 " ++
    "1.g 1.8 z 2.2 3 1 1 1 1 1 1 1 1 1 1 1 5 2 1.1 2.1e 1c 1 1 1 1 1 1 1 1 1 1 1 1 1 1 1 1 9 " ++
    "1 1 1 1 1 1 1 1 1 1 1 1 1 1 1 1 1 1 1 1 1 1 1 1 1 1 1.1 1 1 1 1 1 1 2 1 1 1 1 1 1 1 1 1 " ++
    "1 1 1 1 1 1 1 1 1 1 1 1 1 1 1 1 1 1 1 1 1 1 1 1 1 1 1 1 1 1 1 1 1 1 1 1 1 1 2.11 289.11 " ++
    "1 5 k2.2d 1p6.16 2.2 8w 1 1 1 1 1 1 1 1 1 1 1 1 1 1 1 1 1 1 1 1 1 1 1 1 1 1 1 1 1 1 1 1 " ++
    "1 1 1 1 1 1 1 1 1 1 1 1 1 1 1 1 1 1 1 1 1 1 1 1 1 1 1 1 1 1 1 1 1 1 1 1 1 1 1 1 1 1 9 1 " ++
    "1 1 1 1 1 1 1 1 1 1 1 1 1 1 1 1 1 1 1 1 1 1 1 1 1 1 1 1 1 1 1 1 1 1 1 1 1 1 1 1 1 1 1 1 " ++
    "1 1 1 9.7 8.5 a.7 8.7 8.5 b 1 1 1 8.7 20.3 c.3 c.3 c.4 b.3 7a 4 3.2 2.2 2 3.4 6 1 1 1.3 " ++
    "2.3 a.1 5 1p 22k.1b 1c 1.2 2 1 1 1.3 1 2 8.2 1 1 1 1 1 1 1 1 1 1 1 1 1 1 1 1 1 1 1 1 1 " ++
    "1 1 1 1 1 1 1 1 1 1 1 1 1 1 1 1 1 1 1 1 1 1 1 1 1 1 1 1 8 1 4 nyl 1 1 1 1 1 1 1 1 1 1 1 " ++
    "1 1 1 1 1 1 1 1 1 1 1 j 1 1 1 1 1 1 1 1 1 1 1 1 1 3r 1 1 1 1 1 1 3 1 1 1 1 1 1 1 1 1 1 " ++
    "1 1 1 1 1 1 1 1 1 1 1 1 1 1 1 1 1 1 1 1 a 1 1.1 1 1 1 1 4 1 2 1 3 1 1 1 1 1 1 1 1 1 1.4 " ++
    "1.4 1 1 1 1 1 1 1 1.3 1 6 5 1 s h7v.p xx.13 3s.z 4c.a 1.e 1.6 1.1 1d6.1e 2ct.v gw0.v " ++
    "k2o.p q.p q.p q 1.1 2 2.1 2.3 1.7 q.p q.1 1.3 2.7 1.6 r.1 1.3 1.4 1 3.6 r.p q.p q.p q.p " ++
    "q.p q.p u.o x.o x.o x.o x.o x 3ed.x"),
  ("mc spacingmark",
    "1s3 1j 2.2 8.3 1.1 1e.1 1m.2 6.1 2.1 a 17 1m.2 1u 1m.2 8 1.1 1h.1 1m 1 6.1 2.1 a 2u.1 " ++
    "1.1 3.2 1.2 a 15.2 1p.3 1p.1 1m 1.4 2.1 1.1 9.1 s e.1 1m.2 5.2 1.2 a 16.1 23.2 6.7 i.1 " ++
    "96.1 1r 4r.1 4 6 2.1 p.1 a.2 2.6 l.1 2.5 2 a.2 1a0 u 3l 7.7 1.1 9m.3 2.2 4.1 1.5 68.1 " ++
    "1m 1 9 1.1 8.5 41 1c 5 1.4 1.1 1p u 4.1 2 1o 2.2 1 3.1 1c.7 8.1 4r l 3sm.1 noz.1 2 2g.1 " ++
    "1e.f 3y.1 1b 1c.1 4.1 2.2 32.1 2.1 o 19 1 31 2.1 5 6l.1 1.1 1.1 1 jrn 1 3j 19.2 4.1 37 " ++
    "o.1 1n 1c.2 9.1 d 2l.2 3.1 1 4q.2 v.1 1m.1 1.3 2.1 2.2 9 a.1 5t.2 8.1 3 2y.2 6 1.3 2 " ++
    "6l.2 6.3 2 35.2 8.1 1 31 1.1 6 2x.1 4 79.2 9 6v.5 1.1 4 2 1 3y.2 8.3 4 2c t.1 1q bb e " ++
    "2y 7 2 5x.4 4.1 1 9q.1 c 1c.1 8.1 1 ftb.1i 2w.1 j8z.1 6.5"),
  ("me enclosingmark",
    "w8.1 4dw 17i.3 1.2 qdn.2"),
  ("mn nonspacingmark",
    "lc.33 7n.4 7d.18 1 1.1 1.1 1 20.a 1c.k g 2t.6 2.5 2.1 1.3 z u.q 2j.a 1m.8 9 o.3 1.8 1.2 " ++
    "1.4 17.2 1o.7 16.n 1.v 1j 1 4.7 4 3.6 a.1 t 1m 4.3 8 k.1 q 2.1 1l 4.1 4.1 2.2 3 u.1 3 " ++
    "b.1 1l 4.4 1.1 4 k.1 m.5 1 1m 2 1.3 8 7.1 b.1 u 1p c 1e 3 1j 1.2 5.2 1.3 7.1 b.1 t 1m 2 " ++
    "6 5.1 k.1 s.1 1l.1 4.3 8 k.1 t 20 7.2 1 2i 2.6 c.7 2q 2.8 b.6 21.1 r 1 1 1j.d 1.4 1.1 " ++
    "5.a 1.z 9 2u.3 1.5 1.1 2.1 p.1 4.2 g.3 d 2.1 6 f jj.2 qa.2 t.1 u.1 u.1 1s.1 1.6 8 2.a 9 " ++
    "19.2 1 39.1 y 3a.2 4.1 9 6.2 63.1 2 1m 1.6 1 1 2.7 6.9 2 1c.d 1.f 1d.3 1c 1.4 1 5 14.8 " ++
    "c.1 w.3 2.1 1.2 1k 1.1 3 1.2 1m.7 2.1 48.2 1.c 1.6 4 6 3.1 5i.1r k0.c 4 3.b 2da.2 3x " ++
    "2o.v fe.3 2z.1 n9w 4.9 w.1 28.1 7k 3 4 p.1 5 47.1 q.h d 12.7 p.a 1a.2 1c 2.3 2.1 13 " ++
    "1v.5 2.1 2.1 c 8 1b 1f 1.2 2.1 5.1 1 16.1 8 6m 2 4 fn4 kh.f g.f r1 6a 45.4 1ae.2 1.1 " ++
    "5.3 14.2 4 4l.1 fx.3 ar.1 28.2 1y.a 1d.3 3f 1i.e 15 2.1 a.2 1d.3 2.1 7 1p.2 10.4 1.7 1q " ++
    "c.1 1g.8 a.3 2 2n.2 2 1.1 6 2 4d 3.7 l.1 1l.1 3 11.6 3.4 5f.7 2.2 1 n 2c.5 1 4.1 1.1 " ++
    "6m.3 6.1 1.1 r.1 2d.7 2 1.1 2y 1 2.5 1 2t.2 2.3 1.4 77.8 1.1 74.1 1 4 40.3 2.1 4 w.9 " ++
    "14.5 2.3 8 9.5 2.2 1a.c 1.1 ba.6 1.5 1 2a.l 2.6 1.1 1.1 3e.5 3 1.1 1.6 1 20.1 3 1 9n.1 " ++
    "b.1 1g.4 5 1 459 6.e asa.4 1n.6 t4 1r.3 29 f5k.1 3mp.19 2.m f4.2 h.7 2.6 u.3 44.2 " ++
    "1iz.1i 4.1d 8 e m.4 1.e 11s.6 1.g 2.6 1.1 1.4 2s 4g.6 af 1p.3 e4.3 rk.6 31.6 gzhx.6n"),
  ("nd decimalnumber digit",
    "1c.9 17q.9 3q.9 5i.9 bg.9 3a.9 3a.9 3a.9 3a.9 3a.9 3a.9 3a.9 3a.9 3a.9 2o.9 3a.9 1y.9 " ++
    "7q.9 1y.9 1fq.9 12.9 8c.9 3k.9 4m.9 6.9 52.9 2e.9 3q.9 6.9 r7q.9 iu.9 12.9 5i.9 m.9 " ++
    "2e.9 ba.9 geu.9 13a.9 1om.9 mk.9 3k.9 1o.9 40.9 7q.9 9i.9 3a.9 ae.9 2u.9 2u.9 bq.9 2u.9 " ++
    "l2.9 6u.9 1y.9 bq.9 eti.9 2e.9 3q.9 lf8.1d 1ts.9 bq.9 dy.9 uu.9 3o6.9"),
  ("nl letternumber",
    "4j2.2 227.y 2.3 2v2 p.8 e.2 nfv.9 hu8.1g cs 8 3q.4 6cq.32"),
  ("no othernumber",
    "4y.1 5 2.2 1th.5 ag.5 3c.2 3p.6 61.6 h.8 c1.9 tx.j vn.9 dc 1at 3.5 6.9 5i.f 15 k6.1n " ++
    "26.l hi.t 12h wk.3 3u.9 u.7 1.e w.9 13.e n74.5 hjl.18 1t.3 h.1 9h.q 10.3 110.7 p.6 13.8 " ++
    "23.4 m.5 4g.1 2.f 2.19 1s.8 1g.1 u.2 23.4 2w.7 o.7 15.6 96.5 9s.u 4e.9 16.3 34.6 3q.j " ++
    "aj.j 11h.1 by.8 o7.i nn.k ex2.6 m6.m js9.j c.j 30.o 47i.8 pt.1m 1.2 1.3 24.18 1.e qq.c"),
  ("pc connectorpunctuation",
    "2n 6an.1 j 17tq.1 o.2 6n"),
  ("pd dashpunctuation",
    "19 124 1f 2td sl 1l5.5 2rl 2 v.1 4 s ce j 33 14ls.1 11 a 4p 333"),
  ("pe closepunctuation",
    "15 1f v 2wt 1 1ge 1wp 1j f hm 1 u u6 1 1 1 1 1 1 28 w 1 1 1 1 b8 1 1 1 1 1 1 1 1 1 1 1s " ++
    "1 x th 1 1 1 18 1 1 1 bw 1 1 1 1 3 1 1 1 2.1 14im 61 t 1 1 1 1 1 1 1 3 h 1 1 4q 1f v 2 " ++
    "2"),
  ("pf finalpunctuation",
    "57 671 3 s 2q0 1 4 2 f 3"),
  ("pi initialpunctuation",
    "4r 67g 2.1 2 p 2q0 1 4 2 f 3"),
  ("po otherpunctuation",
    "x.2 1.2 2 1 1.1 a.1 3.1 r 1w 5 e.1 7 ji 8 cy.5 15 1i 2 2 18.1 k.1 1.1 d 1.2 22.3 2u " ++
    "17.d 6h.2 1i.e v 79.1 a 3w 3c 3d au c a7 2i a.1 4o.e 1 34 22.4 4.1 33.5 4r h0.8 lh 3g.2 " ++
    "1z.1 4d.2 1.2 11.5 1.3 8p.1 60.1 3k.6 1.5 4s.6 s.1 3h.3 1n.4 1q.1 1s.7 b n6.1 8.7 8.8 " ++
    "2.3 2.2 3.a 1 1.9 2hm.3 1.1 34 3z.1 4.2 2 2.8 1.1 1 2.1 a.4 1.9 2.3 1 1.c 2.2 bw.2 1l " ++
    "59 mwy.1 7h.2 2r a 37.5 ak.3 2e.1 14.2 1 1d.1 1b 2p.c g.1 3g.3 3i.1 g.1 6x g84.6 2 m " ++
    "k.1 2.3 3.2 1.3 7.2 6 1.1 45.2 1.2 2 1 1.1 a.1 3.1 r 10 2.1 be.2 ik 1c bi kn 5j v 7k.8 " ++
    "12 34.6 1u.6 2h.3 qg.4 18.3 59.6 31.1 1.3 3i.3 1c.1 27.3 4 d 1.2 2g.5 2z bl.4 a.1 1 2w " ++
    "6y.m 2x.2 s.c 24 3m.2 70 7c.2 4b 2k.7 2b.2 1.4 2l.9 8n.4 16.1 hx.1 22.c 4v vk.4 29o.1 " ++
    "bjv.1 3p 1t.4 8 nm.3 93 f5o 5wn.4 2xe.1"),
  ("ps openpunctuation",
    "14 1e v 2wu 1 1ge 1vi 3 12 1j f hm 1 u u6 1 1 1 1 1 1 28 w 1 1 1 1 b8 1 1 1 1 1 1 1 1 1 " ++
    "1 1s 1 x th 1 1 1 p i 1 1 1 bw 1 1 1 1 3 1 1 1 2 14ip 5z t 1 1 1 1 1 1 1 3 h 1 1 4q 1e " ++
    "v 3 2"),
  ("sc currencysymbol",
    "10 3h.3 yx 3f du.1 du.1 7 6t 7b g5 1wb 1qc.w qrb gxv 30 4a 63.1 3.1 6ba.3 12ji 1ww"),
  ("sk modifiersymbol",
    "2m 1 1z 6 4 3 eh.3 c.d 5.6 1 1.g 39 e.1 zm 4l0 1.2 b.2 d.2 d.2 d.1 3a4.1 ndv.m 9.1 2v.1 " ++
    "r4 e.1 fuu.g or 1 4i 1c7r.4"),
  ("sm mathsymbol",
    "17 g.2 1p 1 19 4 11 v la en.2 56j d 13.2 d.2 3v 13.4 6 1w.4 5.1 4 2 2 7 v.1 2 1 v.7f " ++
    "w.1 2i u.o 14.5 d1 9 1i.7 33 9c.4 2.u a.f 74.3m m.1q 4.v 2.75 1c.k 2.5 1524 mw 1.2 4k " ++
    "g.2 1p 1 3n 6.3 16fo p v p v p v p v p 4ks.1"),
  ("so othersymbol",
    "4m 2 4 1 r5 7e.1 3j.1 5q a j.1 6v eb ad 3m.5 1 3o 5r 15 av.2 f 1.2 2.5 k 1 1 3p.7 1.5 " ++
    "1.1 5.3 5h.1 kw.9 k3 k2 4d.x 9t.9 9.8 137.1 1.3 1.1 a 1.1 6.5 1 1 1 4 b.1 e 1.1 1 1m.1 " ++
    "9.4 2.3 1.1 1.1 1.6 1.u 2.1 1 1.u 7g.7 4.j 2.6 2.28 1.t p.13 6.1w p.a 29.25 m.52 1.8 " ++
    "1.1h 8.32 1.6v 18.17 1s.73 e8.1b l.1 6.12 2.v 1.2w 6d.5 9x.1 1a.p 1.2g c.5x q.b 8 d.1 c " ++
    "l.1 6.1 9c.1 4.9 w.z s.u b.t 8 f.v a.12 f.8v 534.1r h3k.1i o1.3 a.1 1 fx.2 gcm.f 3j " ++
    "19.2 dg 3 4.1 d.1 8p.8 1l.g 2.2 1.c 3 1b.18 1a2.1 gf 2gm 1p1.7 4.g eve.3 5 g2e 3oz.37 " ++
    "1o.6t a.12 2.1n 5.2 m.1 7.t 4.1o l.1t 3 56.2e x5.e7 1j.3 1e.7 1.d 1.1 1c8 28s 3l k1.17 " ++
    "4.2r c.e 2.e 1.e 1.10 n.4g 1k.s d.17 4.8 7.1 e.5 4a.6y 5.k7 4.g 3.c 3.3a 4.2m 6.b 4 f.b " ++
    "4.1j 8.9 6.13 8.t 2.1 26.9f c.d 2.c 3.8 7.19 1.6 8.d 4.8 7.8 7.42 1.1i"),
  ("zl lineseparator",
    "6co"),
  ("zp paragraphseparator",
    "6cp"),
  ("zs spaceseparator",
    "w 3j 4bj 1vj.a 10 1b 334")]

end FleetHealth.Unicode
