import LintRun.Unicode.Runs

/-!
# Ages

The version of Unicode in which each code point was assigned, up to version 16.0.
-/

namespace LintRun.Unicode

/-- The versions from the oldest on, each with its label in the table. -/
def versions : List (String × String) := [
  ("a", "1.1"), ("b", "2.0"), ("c", "2.1"), ("d", "3.0"), ("e", "3.1"), ("f", "3.2"),
  ("g", "4.0"), ("h", "4.1"), ("i", "5.0"), ("j", "5.1"), ("k", "5.2"), ("l", "6.0"),
  ("m", "6.1"), ("n", "6.2"), ("o", "6.3"), ("p", "7.0"), ("q", "8.0"), ("r", "9.0"),
  ("s", "10.0"), ("t", "11.0"), ("u", "12.0"), ("v", "12.1"), ("w", "13.0"), ("x", "14.0"),
  ("y", "15.0"), ("z", "15.1"), ("A", "16.0")]

/-- The table of runs; `Z` stands for what is not assigned. -/
def ageLines : List String := [
  "a502 d4 a30 d8 f1 g1 d18 g3 h11 i14 a89 d5 g2 a47 d1 a10 d5 g17 a70 d9 f1 g8 h5 g3 a2 d1",
  "f13 j4 a2 j2 Z2 a1 i3 a1 p1 Z4 a7 Z1 a1 Z1 a20 Z1 a44 j1 a7 d1 f2 a1 d1 a1 d1 a1 d1 a1 d1",
  "a18 e2 f1 g5 h4 d1 a12 d1 a66 d1 a12 d1 a41 j1 d2 f2 d4 a53 f2 a2 f2 a2 f2 i1 a28 d2 a8 h2",
  "a2 i6 f16 i4 j16 k2 l2 p8 Z1 a38 Z2 a7 t1 a39 t1 a1 d1 Z2 p2 m1 Z1 b17 h1 b13 a10 i1 a9 b1",
  "h3 Z8 a27 Z4 t1 a5 Z11 g4 m1 p1 j5 h1 a1 g9 j5 a1 o1 x1 h1 a1 l1 a26 j5 a19 d3 g3 h6 l1 a14",
  "f2 a72 d2 a5 d1 a15 d1 a30 g2 a10 d5 g1 d14 Z1 d30 g3 d27 Z2 g3 h30 j18 d49 f1 Z14 i59 Z2",
  "t3 k46 Z2 k15 Z1 l28 Z2 l1 Z1 s11 Z5 x31 Z1 x2 Z5 A1 x8 m1 p1 m11 p6 q2 x1 r8 w10 x11 t1",
  "r15 q1 m27 p1 k1 a3 g1 a53 l2 a18 k1 l1 a5 k1 l2 a25 j2 l5 p1 k2 i2 h1 i2 p1 a3 Z1 a8 Z2 a2",
  "Z2 a22 Z1 a7 Z1 a1 Z3 a4 Z2 a1 g1 a7 Z2 a2 Z2 a3 h1 Z8 a1 Z4 a2 Z1 a5 Z2 a21 k1 s2 t1 Z2 g1",
  "a1 g1 Z1 a6 Z4 a2 Z2 a22 Z1 a7 Z1 a2 Z1 a2 Z1 a2 Z2 a1 Z1 a5 Z4 a2 Z2 a3 Z3 j1 Z7 a4 Z1 a1",
  "Z7 a15 j1 t1 Z10 a3 Z1 a7 g1 a1 Z1 a3 Z1 a22 Z1 a7 Z1 a2 Z1 a5 Z2 a10 Z1 a3 Z1 a3 Z2 a1 Z15",
  "a1 g3 Z2 a10 m1 g1 Z7 q1 s6 Z1 a3 Z1 a8 Z2 a2 Z2 a22 Z1 a7 Z1 a2 Z1 g1 a4 Z2 a8 j1 Z2 a2 Z2",
  "a3 Z7 w1 a2 Z4 a2 Z1 a3 j2 Z2 a11 g1 l6 Z10 a2 Z1 a6 Z3 a3 Z1 a4 Z3 a2 Z1 a1 Z1 a2 Z3 a2 Z3",
  "a3 Z3 a8 h1 a3 Z4 a5 Z3 a3 Z1 a4 Z2 j1 Z6 a1 Z14 h1 a12 g8 Z5 p1 a3 t1 a8 Z1 a3 Z1 a23 Z1",
  "a10 p1 a5 Z2 x1 j1 a7 Z1 a3 Z1 a4 Z7 a2 Z1 j2 q1 Z2 x1 Z2 a2 j2 Z2 a10 Z7 u1 j8 r1 p1 a2 t1",
  "a8 Z1 a3 Z1 a23 Z1 a10 Z1 a5 Z2 g2 a7 Z1 a3 Z1 a4 Z7 a2 Z6 x1 a1 Z1 a2 i2 Z2 a10 Z1 i2 y1",
  "Z12 s1 p1 a2 w1 a8 Z1 a3 Z1 a23 l1 a16 l1 s2 j1 a6 j1 Z1 a3 Z1 a4 l1 r1 Z4 r3 a1 r7 q1 a2",
  "j2 Z2 a10 j6 r3 j7 Z1 w1 d2 Z1 d18 Z3 d24 Z1 d9 Z1 d1 Z2 d7 Z3 d1 Z4 d6 Z1 d1 Z1 d8 Z6 p10",
  "Z2 d3 Z12 a58 Z4 a29 Z37 a2 Z1 a1 Z1 u1 a2 u1 a1 Z1 u1 a1 u6 a4 u1 a7 u1 a3 Z1 a1 Z1 a1 u2",
  "a2 u1 a13 u1 a3 Z2 a5 Z1 a1 Z1 a6 y1 Z1 a10 Z2 a2 m2 Z32 b72 Z1 b33 d1 j2 Z4 b27 l4 b6 d1",
  "b1 Z1 b21 d3 b7 d1 b1 d3 Z1 d15 Z1 j1 d1 h2 j3 k4 l2 Z37 d34 j1 d5 j1 d2 j1 d7 j3 d4 j6 d26",
  "j64 k4 j2 a38 Z1 m1 Z5 m1 Z2 a39 f2 h2 a1 h1 m3 a90 k5 a68 k5 a82 k6 d7 h1 d63 h1 d1 Z1 d4",
  "Z2 d7 Z1 d1 Z1 d4 Z2 d39 h1 d1 Z1 d4 Z2 d31 h1 d1 Z1 d4 Z2 d7 Z1 d1 Z1 d4 Z2 d7 h1 d7 Z1",
  "d23 h1 d31 h1 d1 Z1 d4 Z2 d7 h1 d39 h1 d19 Z2 l2 h2 d28 Z3 h26 Z6 d85 q1 Z2 q6 Z2 k1 d630",
  "k9 d29 Z3 d81 p8 Z7 f13 x1 f7 x1 Z9 x1 f23 Z9 f20 Z12 f13 Z1 f3 Z1 f2 Z12 d93 g1 Z2 d10 Z6",
  "g10 Z6 d15 x1 d10 Z6 d88 t1 Z7 d42 j1 Z5 k70 Z10 g29 p2 Z1 g12 Z4 g12 Z4 g1 Z3 g42 Z2 g5",
  "Z11 h42 k2 Z4 h26 Z6 h10 k1 Z3 h2 g32 h28 Z2 h2 k63 Z1 k29 Z2 k11 Z6 k10 Z6 k14 Z2 p15 w2",
  "x14 Z49 i76 x1 Z1 A2 i45 x2 A1 j43 m3 j12 m6 l52 Z8 l4 j56 Z3 j15 Z3 j51 r9 A2 Z5 t43 Z2 t3",
  "m8 Z8 k35 m4 s1 p2 u1 Z5 g108 h88 i7 j28 p15 s4 x1 r1 l1 k1 i2 a155 b1 j4 a90 j6 a22 Z2 a6",
  "Z2 a38 Z2 a6 Z2 a8 Z1 a1 Z1 a1 Z1 a1 Z1 a31 Z2 a53 Z1 a15 Z1 a14 Z2 a6 Z1 a19 Z2 a3 Z1 a9",
  "Z1 a47 d1 a23 f1 d6 f5 g2 h2 f1 h7 f5 j1 Z1 o4 a7 f1 Z2 a27 Z1 h5 l8 Z3 a11 b1 c1 d3 f2 h4",
  "k3 l1 n1 p3 q1 s1 x1 Z15 a18 d2 f7 h1 i4 j1 Z15 a57 d2 g1 h1 f15 h1 i2 j1 k3 a48 d1 i1 j4",
  "k1 q2 Z4 a91 d9 f12 a242 f14 a1 d1 a121 d1 f1 d30 f52 g2 h11 i12 k1 l11 p7 r4 s1 a37 d2 A3",
  "Z22 a11 Z21 a139 f20 g1 a150 f10 a80 d8 f8 a20 g2 f2 h1 d1 a86 d2 f12 h2 f10 g8 h11 j1 k2",
  "g2 h16 i1 j10 k3 j4 k10 l1 k19 l1 k1 l4 k24 p1 a4 l1 a4 l2 a28 l1 a35 l1 a1 l1 a4 l3 a1 k1",
  "a7 l2 a7 f14 a31 l3 a24 l1 a14 l1 h7 i4 m1 j1 m1 l2 f28 j4 f16 d256 f512 g14 h6 i7 j5 i4",
  "j41 p3 j5 k5 p26 Z2 p32 Z1 w1 p34 t3 p12 u1 p8 s1 t25 q4 t15 u1 h47 x1 h47 x1 i13 j3 k1 j3",
  "i4 j6 k2 h107 k7 m2 Z5 h45 Z1 m1 Z5 m1 Z2 h54 m2 Z7 h1 l1 Z14 l1 h23 Z9 h7 Z1 h7 Z1 h7 Z1",
  "h7 Z1 h7 Z1 h7 Z1 h7 Z1 h7 Z1 j32 h24 j4 h2 j19 k1 m10 p7 r2 s5 t5 u1 w3 x11 Z34 d26 Z1 d89",
  "Z12 d214 Z26 d12 z4 a56 d3 f3 d1 a1 Z1 a84 f2 Z2 a6 f2 a94 f1 Z5 a40 j1 s1 t1 Z1 a94 Z1 a16",
  "d24 l3 w5 h16 j20 A2 Z9 z1 f16 a29 g2 Z1 a36 k12 g1 f15 a28 g2 h1 a50 f15 a12 g4 a47 v1",
  "a119 g4 a99 g2 a31 g1 d6582 w10 g64 a20902 h22 j8 k8 m1 q9 s21 t5 w13 x3 d1165 Z3 d18 f2",
  "d16 f1 d12 f1 d3 f1 d1 Z9 k48 j300 Z20 j32 l2 j18 m8 j28 p6 q1 m1 k88 Z8 h23 i4 j5 i2 j107",
  "l2 q1 l2 m2 p12 l10 m1 p3 r1 t1 p2 q6 t2 u6 x2 u5 w4 A3 Z2 x2 Z1 x1 Z1 x5 A3 Z21 x3 w2 p1",
  "m2 l1 j5 h44 w1 Z3 k10 Z6 i56 Z8 j69 r1 Z8 j12 Z6 k28 q2 t2 j84 Z11 j1 k29 Z3 k78 Z1 k11 Z4",
  "k2 p31 Z1 j55 Z9 j14 Z2 j10 Z2 j4 k28 p4 k67 Z24 k5 m23 Z10 l6 Z2 l6 Z2 l6 Z9 l7 Z1 l7 Z1",
  "p48 q4 p2 u2 w4 Z4 q80 k46 Z2 k10 Z6 b11172 Z12 k23 Z4 k49 Z2052 a6702 m2 f59 k3 Z2 h106",
  "Z38 a7 Z12 a5 Z5 d1 a25 Z1 a5 Z1 a1 Z1 a2 Z1 a2 Z1 a108 l16 x1 Z16 a365 x16 a64 Z2 a54 Z7",
  "x1 e32 a12 f1 g1 x2 f16 h10 Z6 a4 j3 p7 q2 a21 f2 g2 a10 Z1 a19 Z1 a4 Z4 a3 f1 a1 Z1 a135",
  "Z2 a1 Z1 a94 f2 a94 Z3 a6 Z2 a6 Z2 a6 Z2 a3 Z3 a7 Z1 a7 Z10 d3 c1 a3 g12 Z1 g26 Z1 g19 Z1",
  "g2 Z1 g15 Z2 g14 Z34 g123 Z5 g3 Z4 g45 Z3 g9 h75 p2 r2 Z1 j12 w1 Z3 p1 Z47 j46 Z130 j29 Z3",
  "j49 Z15 p28 Z4 e31 p1 e4 Z9 s3 e27 Z5 p43 Z5 g30 Z1 g1 h36 Z4 h14 Z42 e38 g2 e38 g80 Z2 g10",
  "Z6 r36 Z4 r36 Z4 p40 Z8 p52 Z11 p1 x11 Z1 x15 Z1 x7 Z1 x2 Z1 x11 Z1 x15 Z1 x7 Z1 x2 Z3 A52",
  "Z12 p311 Z9 p22 Z10 p8 Z24 x6 Z1 x42 Z1 x9 Z69 g6 Z2 g1 Z1 g44 Z1 g2 Z3 g1 Z2 g1 k22 Z1 k9",
  "p63 Z8 p9 Z48 q19 Z1 q2 Z5 q5 i26 k2 Z3 i1 j26 Z5 j1 Z64 m56 Z4 q2 m2 q16 Z2 q46 h4 Z1 h2",
  "Z5 h8 Z1 h3 Z1 h27 t2 Z2 h3 Z4 h9 t1 Z7 h9 Z7 k32 p32 Z32 p39 Z4 p12 Z9 k54 Z3 k29 Z2 k27",
  "Z5 k8 p18 Z7 p4 Z12 p7 Z80 k73 Z55 q51 Z13 q51 Z7 q6 t40 Z8 t10 Z6 A38 Z3 A29 Z8 A2 Z208",
  "k31 Z1 w42 Z1 w3 Z2 w2 Z16 A3 Z55 A1 y3 t40 Z8 t42 Z22 x26 Z38 w28 Z20 u23 Z9 l78 Z4 l30 x6",
  "Z9 p1 k66 x1 Z10 t1 Z2 m25 Z7 m10 Z6 m53 Z1 m14 t3 w1 Z8 p39 Z9 m73 q4 p1 w2 m10 p1 q5 Z1",
  "p20 Z11 p18 Z1 p43 r1 y3 Z62 q7 Z1 q1 Z1 q4 Z1 q15 Z1 q11 Z6 p59 Z5 p10 Z6 q1 p3 Z1 p8 Z2",
  "p2 Z2 p22 Z1 p7 Z1 p2 Z1 p5 Z1 t1 p9 Z2 p2 Z2 p3 Z2 q1 Z6 p1 Z5 p7 Z2 p7 Z3 p5 Z11 A10 Z1",
  "A1 Z2 A1 Z1 A38 Z1 A10 Z1 A1 Z2 A1 Z1 A4 Z1 A10 Z1 A2 Z8 A2 Z29 r90 w1 r1 Z1 r1 t1 u1 w2",
  "Z30 p72 Z8 p10 Z166 p54 Z2 p18 q20 Z34 p69 Z11 p10 Z6 r13 Z19 m56 u1 x1 Z6 m10 Z6 A20 Z28",
  "q26 t1 Z2 q15 Z4 q16 x7 Z185 t60 Z100 p83 Z12 p1 w7 Z2 w1 Z2 w8 Z1 w2 Z1 w30 Z1 w2 Z2 w12",
  "Z9 w10 Z70 u8 Z2 u46 Z2 u11 Z27 s72 Z8 s52 u2 s23 t1 s5 Z13 x16 p57 Z7 y10 Z182 A34 Z14 A10",
  "Z6 r9 Z1 r45 Z1 r14 Z10 r29 Z3 r32 Z2 r22 Z1 r14 Z73 s7 Z1 s2 Z1 s44 Z3 s1 Z1 s2 Z1 s9 Z8",
  "s10 Z6 t6 Z1 t2 Z1 t37 Z1 t2 Z1 t6 Z7 t10 Z310 t25 Z7 y17 Z1 y41 Z3 y28 A1 Z85 w1 Z15 u50",
  "Z13 u1 i879 p42 q1 Z102 i99 p12 Z1 i4 p1 Z11 q196 Z2636 x99 Z13 k1071 y1 u9 y29 Z10 A3995",
  "Z5 q583 Z6841 A58 Z1734 l569 Z7 p31 Z1 p10 Z4 p2 x79 Z1 x10 Z6 p30 Z2 p6 Z10 p70 Z10 p10 Z1",
  "p7 Z1 p21 Z5 p19 Z432 A58 Z198 t91 Z101 m69 u6 Z4 u1 m47 u9 Z7 m17 Z64 r1 s1 u2 w1 Z11 w2",
  "Z14 r6125 t5 u6 Z8 r755 w483 Z41 A1 w9 Z8935 x4 Z1 x7 Z1 x2 Z1 l2 s285 x4 Z15 y1 Z29 u3 Z2",
  "y1 Z14 u4 Z8 s396 Z2308 p107 Z5 p13 Z3 p9 Z7 p10 Z2 p8 Z3932 A250 Z6 A436 Z76 x46 Z2 x23 Z9",
  "x116 Z60 e246 Z10 e39 Z2 j1 e180 q11 x2 Z21 h70 Z122 y20 Z12 t20 Z12 g87 Z9 i18 t7 Z135 e85",
  "Z1 e71 Z1 e2 Z2 e1 Z2 e2 Z2 e4 Z1 e12 Z1 e1 Z1 e4 g1 e2 Z1 e65 Z1 e4 Z2 e8 Z1 e7 Z1 e28 Z1",
  "e4 Z1 e5 Z1 e1 Z3 e7 Z1 e338 h2 Z2 e290 i2 Z2 e50 q652 Z15 q5 Z1 q15 Z1104 x31 Z6 y6 Z213",
  "r7 Z1 r17 Z2 r7 Z1 r2 Z1 r5 Z5 y62 Z33 y1 Z112 u45 Z3 u14 Z2 u10 Z4 u2 Z320 x31 Z17 u58 Z5",
  "u1 Z464 y42 Z214 A43 Z4 A1 Z480 x7 Z1 x4 Z1 x2 Z1 x15 Z1 p197 Z2 p16 Z41 r75 u1 Z4 r10 Z4",
  "r2 Z785 t68 Z76 u61 Z194 m4 Z1 m27 Z1 m2 Z1 m1 Z2 m1 Z1 m10 Z1 m4 Z1 m1 Z1 m1 Z6 m1 Z4 m1",
  "Z1 m1 Z1 m1 Z1 m3 Z1 m2 Z1 m1 Z2 m1 Z1 m1 Z1 m1 Z1 m1 Z1 m1 Z1 m2 Z1 m1 Z2 m4 Z1 m7 Z1 m4",
  "Z1 m4 Z1 m1 Z1 m10 Z1 m17 Z5 m3 Z1 m5 Z1 m17 Z52 m2 Z270 j44 Z4 j100 Z12 l15 Z2 l14 p1 Z1",
  "l15 Z1 l15 p22 Z10 k11 p2 w3 k31 t1 l1 k1 l11 k1 l1 k1 l2 k1 l3 k1 l3 k5 l8 k1 l7 k1 l10 m2",
  "u1 w3 l9 k1 l1 k2 l2 k1 l10 k4 l2 k1 l10 r18 w1 Z56 l26 k1 l2 Z13 k34 l9 r1 Z4 k9 Z7 l2 Z14",
  "s6 Z154 l33 p12 q3 l6 p1 l70 p1 q2 l20 p12 l37 p1 l5 p4 q5 p12 l17 p7 q8 l63 p1 l1 p1 l182",
  "p1 l4 p2 q1 l62 p2 m4 p7 q5 l24 p18 r1 p41 r1 p86 l5 m1 l16 m1 l3 m1 l1 m1 l1 m1 l1 m1 l3",
  "m1 l6 m2 l4 m1 l1 m2 l4 m1 l12 p2 q2 l11 p48 l70 p10 q1 r2 s2 u1 w2 Z4 y1 x3 p13 Z3 p4 r3",
  "s2 t1 u1 w2 Z3 l116 y3 Z4 y5 p85 t4 y1 Z6 u12 Z4 x1 Z15 p12 Z4 p56 Z8 p10 Z6 p40 Z8 p30 Z2",
  "w2 A10 Z4 A2 Z62 s12 w1 u3 q9 r6 s1 r8 s8 r1 s2 r12 u1 r12 s1 t3 r15 s13 t5 u1 w1 t4 w2 x1",
  "t1 u1 t4 q5 r13 s6 t11 w2 u6 w3 u2 t10 u6 q1 t2 u8 w1 x1 u3 s23 t25 u84 Z12 t14 Z2 u4 w1 y3",
  "u3 x2 Z3 u3 w4 y2 A1 Z5 A1 u6 w19 x4 y3 w7 x4 y3 A1 y1 w3 x3 A1 Z7 y2 w7 x3 y2 A1 Z2 A1 x8",
  "y1 A1 Z6 x7 y2 Z7 w147 Z1 w55 A37 w10 Z1028 b2 e42711 w7 x2 Z32 k4149 x4 y1 Z6 l222 Z2",
  "q5762 Z14 s7473 Z15 z622 Z2466 e542 Z1504 b2 w4939 Z5 y4192 Z56398 b2 Z65534 b2 Z65534 b2",
  "Z65534 b2 Z65534 b2 Z65534 b2 Z65534 b2 Z65534 b2 Z65534 b2 Z65534 b2 Z65534 b2 Z1 e1 Z30",
  "e96 Z128 g240 Z65038 b131074"]

/-- The label of the version of each stretch of characters. -/
def ageRuns : Runs String := .ofLabelled ageLines

/-- The stretches of what was assigned in a version or before. -/
def ageRanges (version : String) : List (Nat × Nat) :=
  let labels := versions.map (·.1)
  let older := labels.takeWhile (· != version) ++ [version]
  ageRuns.ranges older.contains

end LintRun.Unicode
