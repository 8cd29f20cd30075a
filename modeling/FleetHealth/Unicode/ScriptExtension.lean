import FleetHealth.Unicode.Runs

/- The scripts that use a character, listed where they differ from the characters of the script itself. -/
namespace FleetHealth.Unicode

def scriptExtensions : Table := [
  ("adlm adlam",
    "17j w 2ncv.23 4.9 4.1"),
  ("arab arabic",
    "16o.4 1.5y 1.x 28.1b 6o.u 1.1 6.21 1.s 1bv4.36 g.cc 2.1h 7 w.f 34.4 1.3q rn.r 290.u " ++
    "3i.2 181s.3 1.q 1.1 1 2 1.9 1.3 1 1 6 4 1 1 1.2 1.1 1 2 1 1 1 1 1.1 1 2.3 1.6 1.3 1.3 1 " ++
    "1.9 1.g 5.2 1.4 1.g 1g.1"),
  ("beng bengali",
    "1u9.1 h.1 q.3 1.7 2.1 2.l 1.6 1 3.3 2.8 2.1 2.3 8 4.1 1.4 2.o 3pt 1 2.1 1 8 8 2 4 2.2 rnd"),
  ("bopo bopomofo",
    "kq.1 8wl.2 4.9 1.c a.3 2 6 5f 9.16 34.v 14ed.1 7u.4"),
  ("bugi buginese",
    "54w.r 2.1 sdr"),
  ("buhd buhid",
    "4l1.1 9.j"),
  ("cakm chakma",
    "1ye.9 18w.9 1epi.1g 1.h"),
  ("copt coptic qaac",
    "rm.d 80g.37 5.6 168w.r"),
  ("cpmn cyprominoan",
    "1erk.1 972.2q"),
  ("cprt cypriot",
    "1erk.2 4.18 3.8 1c0.5 2 1.17 1.1 3 2"),
  ("cyrl cyrillic",
    "sg.8f 4ls.8 4i 24 3j 353.v 1v np8.2n ham.1 18n4.1p x"),
  ("deva devanagari",
    "1s0.2a 2.16 3tc.12 1.1 s6 qpr.9 4m.v mio.9"),
  ("dogr dogra",
    "1us.b vcw.9 m2u.1n"),
  ("dupl duployan",
    "2fpc.2y 5.c 3.8 7.9 2.7"),
  ("geor georgian",
    "3a8.11 1 5 2.1b 2a8.16 2.2 37k.11 1 5"),
  ("glag glagolitic",
    "w4 2 7so.2n df nqj 1pxs.6 1.g 2.6 1.1 1.4"),
  ("gong gunjalagondi",
    "1us.1 1iii.5 1.1 1.10 1.1 1.5 7.9"),
  ("gonm masaramgondi",
    "1us.1 1ifu.6 1.1 1.17 3 1.1 1.8 8.9"),
  ("gran grantha",
    "1u9.1 h.1 hs.d 3bw 1.1 u.2 3.1 s6 1btb.3 1.7 2.1 2.l 1.6 1.1 1.4 1.9 2.1 2.2 2 6 5.6 " ++
    "2.6 3.4 2fv.1 1"),
  ("grek greek",
    "n6 2 16.3 1.2 2.3 1 4 1 1.2 1 1.j 1.1q e.f 4yu.4 1e.4 4.4 2c.2 8u.l 2.5 2.11 2.5 2.7 1 " ++
    "1 1 1.u 2.1g 1.e 1.d 2.5 1.i 2.2 1.8 87 rb2 gyi.26 h 155r.1x"),
  ("gujr gujarati",
    "1u9.1 h.1 7v.2 1.8 1.2 1.l 1.6 1.1 1.4 2.9 1.2 1.2 2 f.3 2.b 7.6 v1s.9"),
  ("guru gurmukhi",
    "1u9.1 h.1 4b.2 1.5 4.1 2.l 1.6 1.1 1.1 1.1 2 1.4 4.1 2.2 3 7.3 1 7.g v5l.9"),
  ("hang hangul",
    "3cw.73 5xd.2 4.9 1.c e.2 6 5f 1h.2l 35.u 1t.u nhd.s hv.8mb c.m 4.1c 7k9.1 7u.4 1m.u 3.5 " ++
    "2.5 2.5 2.2"),
  ("hani han",
    "96o.p 1.2g c.5x 17.2 1.c 1.c 1.c 2 6.8 57 44.f w.z 1o.13 1k.1c f.b 1f 2g.o a.4 2o.u " ++
    "1.533 1s.g73 1ds.7 g6w.a5 2.2x ob.1 7u.4 m7w.1 c.1 jn2.h 63i.1 2pa.wyn w.37d 6.65 2.4g1 " ++
    "e.5rk 2e7.f1 15u.3t6 5.38f"),
  ("hano hanunoo",
    "4kg.m"),
  ("hira hiragana",
    "9hd.2 4.9 1.c g.5 1 4.1 3.2d 2.7 2i.1 14js.1 7u.4 a 19.1 yu9.7y i t.2 crx"),
  ("java javanese",
    "xhc.25 1.a 4.1"),
  ("kali kayahli",
    "xds.1b"),
  ("kana katakana",
    "9hd.2 4.9 1.c g.5 1 4.1 2j.3 3.2n 6o.f 5s.1a 1.2f 1431.1 7u.1q yts.3 1.6 1.1 1 7z.2 1e e.3"),
  ("khoj khojki",
    "25i.9 v28.9 kw6.h 1.1a"),
  ("knda kannada",
    "1u9.1 h.1 m2.c 1.2 1.m 1.9 1.4 2.8 1.2 1.3 7.1 6.1 1.3 2.9 1.2 34s 1 7 n 1 ri3.5"),
  ("kthi kaithi",
    "1uu.9 vcw.9 kli.1u a"),
  ("latn latin",
    "1t.p 6.p 1b f 5.m 1.u 1.cg 13.4 3i.c 7p.1 y2.1 1ig 2dg.11 6.1c 5.3 5.c 1.1x 1t.73 8f 1t " ++
    "d g.c 2b 1l.1 6 r h.14 253.v o74.7 q.2t 3.1r 5.1 1 1.4 o.d 8e e9.16 1.8 1.3 fpy.6 t6.p " ++
    "6.p 1lx.5 1.15 1.8 16it.u 6.5"),
  ("limb limbu",
    "1ut 32y.u 1.b 4.b 4 3.b"),
  ("lina lineara",
    "1err.18 y4.8m 9.l a.7"),
  ("linb linearb",
    "1ekg.b 1.p 1.i 1.1 1.e 2.d y.3e 5.2 4.18 3.8"),
  ("mahj mahajani",
    "1us.b vcw.9 kra.12"),
  ("mand mandaic",
    "18g e7.r 2"),
  ("mani manichaean",
    "18g 1fgf.12 4.b"),
  ("mlym malayalam",
    "1u9.1 h.1 pm.c 1.2 1.1e 1.2 1.5 4.f 2.p 316 rit.2"),
  ("modi",
    "x80.9 lom.1w b.9"),
  ("mong mongolian",
    "4qo.p 6.2g 7.16 1hg 1cmo.c"),
  ("mult multani",
    "21y.9 1g5s.6 1 1.3 1.e 1.a"),
  ("mymr myanmar",
    "35s.4f u4u 4x.u 2p.v"),
  ("nand nandinagari",
    "1us.1 ow.9 35l 8 7 rhx.5 mei.7 2.19 2.a"),
  ("nkoo nko",
    "170 e 3 bk.1m 2.2 1cfy.1"),
  ("orya oriya",
    "1u9.1 h.1 bf.2 1.7 2.1 2.l 1.6 1.1 1.4 2.8 2.1 2.2 7.2 4.1 1.4 2.h 3fm n"),
  ("ougr olduyghur",
    "18g 1fht vx.p"),
  ("perm oldpermic",
    "w3 1ebw.16"),
  ("phag phagspa",
    "4qq.1 1 shm.1j"),
  ("phlp psalterpahlavi",
    "18g 1flr.h 7.3 c.6"),
  ("rohg hanifirohingya",
    "170 e 3 w 43 1fsb.13 8.9"),
  ("shrd sharada",
    "1u9 3ut 1 2.1 2 1cbj.2n"),
  ("sind khudawadi",
    "1us.1 vd6.9 l12.1m 5.9"),
  ("sinh sinhala",
    "1us.1 t7.2 1.h 3.n 1.8 1 2.6 3 4.5 1 1.7 6.9 2.2 1fcc.j"),
  ("sogd sogdian",
    "18g 1gbz.15"),
  ("sylo sylotinagri",
    "1us.1 3k.9 v80.18"),
  ("syrc syriac",
    "170 e.1 2 w a.a q 3z.d 1.1n 2.2 7k.a 499 1"),
  ("tagb tagbanwa",
    "4l1.1 15.c 1.2 1.1"),
  ("takr takri",
    "1us.1 vd6.9 ls6.1l 6.9"),
  ("tale taile",
    "37k.9 1s6.t 2.4"),
  ("taml tamil",
    "1u9.1 h.1 f0.1 1.5 3.2 1.3 3.1 1 1.1 3.1 3.2 3.b 4.4 3.2 1.3 2 6 e.k 3bz ro8 ky5 1 1j.1 " ++
    "2gz.1d d"),
  ("telu telugu",
    "1u9.1 h.1 ii.c 1.2 1.m 1.f 2.8 1.2 1.3 7.1 1.2 2 2.3 2.9 7.8 38a n"),
  ("tglg tagalog",
    "4jk.l 9 l.1"),
  ("thaa thaana",
    "170 e.1 2 1s.9 7q.1d 1cn4 a"),
  ("tirh tirhuta",
    "1u9.1 h.1 3v0 ri5.9 ldy.1z 8.9"),
  ("yezi yezidi",
    "170 e 3 1s.9 1g5y.15 1.2 2.1"),
  ("yiii yi",
    "9hd.1 5.9 2.7 67 lxg.wc 3.1i hwa.4"),
  ("zinh inherited qaai",
    "lc.1t 1.1 1.s 168.1 3ff.u kz.1h 1 1.4 ek.1 5e.v 17o0.f g.d r3 14hu.19 2.m f4.2 h.7 2.6 " ++
    "u.3 h45u.6n"),
  ("zyyy common",
    "0.1s q.5 q.1a 1.e 1.4 n v ch.12 5.4 2.j 38 9 6 1 hp 5z ec 124 b9.3 1ea.2 1si.b 2.w 1.1g " ++
    "1.a 3.a 1.e h.w 1r.11 1.2 2.5 1.q 1.g 15.2 4.ie p.a l.pr 74.hf 2.v 1.2w e8.1u 1.p b6.b " ++
    "4 3 d d l ep.n v 1d.e c.3 4h.9 5.2n v 534.1r hl4.p 2u.2 r4 e.1 gbo.9 m.k 2.b 1.i 1.3 43 " ++
    "1.v q.5 q.5 3j.6 1.6 a.4 b6.c 1f.18 14k3.37 1o.6t a.12 2.1p 3.g 8.1 7.t 4.1o 5x.j c.j " ++
    "c.2e r.6 3r.2c 1.1y 1.1 2 2.1 2.3 1.b 1 1.6 1.1s 1.3 2.7 1.6 1.r 1.3 1.4 1 3.6 1.9f " ++
    "2.83 2.1d 41d.1v 24.1o jm.17 4.2r c.e 2.e 1.e 1.10 a.4t 1k.p 1.1 d.17 4.8 n.5 4a.rb 4.g " ++
    "3.c 3.3a 4.2m 6.b 4 f.b 4.1j 8.9 6.13 8.t 2.1 26.9f c.d 2.c 3.8 7.19 1.6 8.d 4.8 7.8 " ++
    "7.42 1.1i 11.9 gvlz u.2n")]

end FleetHealth.Unicode
