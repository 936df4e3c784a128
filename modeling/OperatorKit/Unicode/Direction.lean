import OperatorKit.Unicode.Run

/-! The direction in which characters are written. -/

namespace OperatorKit.Unicode

inductive Direction where
  | left
  | right
  | arabic
  | arabicDigit
  | digit
  | sign
  | separator
  | terminator
  | neutral
  | boundary
  | mark
  | other
deriving DecidableEq, Repr

/-- All directions in the order of their numbers in the table. -/
def directions : List Direction :=
  [.left, .right, .arabic, .arabicDigit, .digit, .sign, .separator, .terminator, .neutral,
    .boundary, .mark, .other]

def directionRuns : List Run := Run.table [
  "0.9.1.9 9.5.1.b e.e.1.9 1c.5.1.b 21.2.1.8 23.3.1.7 26.5.1.8 2b.1.1.5 2c.1.1.6 2d.1.1.5",
  "2e.2.1.6 30.a.1.4 3a.1.1.6 3b.6.1.8 5b.6.1.8 7b.4.1.8 7f.1.1.9 a0.1.1.6 a1.1.1.8 a2.4.1.7",
  "a6.4.1.8 ab.2.1.8 ad.1.1.9 ae.2.1.8 b0.2.1.7 b2.2.1.4 b4.1.1.8 b6.3.1.8 b9.1.1.4 bb.5.1.8",
  "d7.1.1.8 f7.1.1.8 2b9.2.1.8 2c2.e.1.8 2d2.e.1.8 2e5.9.1.8 2ef.11.1.8 300.70.1.a 374.2.1.8",
  "37e.1.1.8 384.2.1.8 387.1.1.8 3f6.1.1.8 483.7.1.a 58a.1.1.8 58d.2.1.8 58f.1.1.7 591.2d.1.a",
  "5be.1.1.1 5bf.1.1.a 5c0.1.1.1 5c1.2.1.a 5c3.1.1.1 5c4.2.1.a 5c6.1.1.1 5c7.1.1.a 5d0.1b.1.1",
  "5ef.6.1.1 606.2.1.8 608.1.1.2 609.2.1.7 60b.1.1.2 60c.1.1.6 60d.1.1.2 60e.2.1.8 610.b.1.a",
  "61b.1.1.2 61d.2e.1.2 64b.15.1.a 660.a.1.3 66a.1.1.7 66b.2.1.3 66d.3.1.2 670.1.1.a",
  "671.65.1.2 6d6.7.1.a 6de.1.1.8 6df.6.1.a 6e5.2.1.2 6e7.2.1.a 6e9.1.1.8 6ea.4.1.a 6ee.2.1.2",
  "6f0.a.1.4 6fa.14.1.2 710.1.1.2 711.1.1.a 712.1e.1.2 730.1b.1.a 74d.59.1.2 7a6.b.1.a",
  "7b1.1.1.2 7c0.2b.1.1 7eb.9.1.a 7f4.2.1.1 7f6.4.1.8 7fa.1.1.1 7fd.1.1.a 7fe.18.1.1 816.4.1.a",
  "81a.1.1.1 81b.9.1.a 824.1.1.1 825.3.1.a 828.1.1.1 829.5.1.a 830.f.1.1 840.19.1.1 859.3.1.a",
  "85e.1.1.1 860.b.1.2 870.1f.1.2 898.8.1.a 8a0.2a.1.2 8ca.18.1.a 8e3.20.1.a 93a.1.1.a",
  "93c.1.1.a 941.8.1.a 94d.1.1.a 951.7.1.a 962.2.1.a 981.1.1.a 9bc.1.1.a 9c1.4.1.a 9cd.1.1.a",
  "9e2.2.1.a 9f2.2.1.7 9fb.1.1.7 9fe.1.1.a a01.2.1.a a3c.1.1.a a41.2.1.a a47.2.1.a a4b.3.1.a",
  "a51.1.1.a a70.2.1.a a75.1.1.a a81.2.1.a abc.1.1.a ac1.5.1.a ac7.2.1.a acd.1.1.a ae2.2.1.a",
  "af1.1.1.7 afa.6.1.a b01.1.1.a b3c.1.1.a b3f.1.1.a b41.4.1.a b4d.1.1.a b55.2.1.a b62.2.1.a",
  "b82.1.1.a bc0.1.1.a bcd.1.1.a bf3.6.1.8 bf9.1.1.7 bfa.1.1.8 c00.1.1.a c04.1.1.a c3c.1.1.a",
  "c3e.3.1.a c46.3.1.a c4a.4.1.a c55.2.1.a c62.2.1.a c78.7.1.8 c81.1.1.a cbc.1.1.a ccc.2.1.a",
  "ce2.2.1.a d00.2.1.a d3b.2.1.a d41.4.1.a d4d.1.1.a d62.2.1.a d81.1.1.a dca.1.1.a dd2.3.1.a",
  "dd6.1.1.a e31.1.1.a e34.7.1.a e3f.1.1.7 e47.8.1.a eb1.1.1.a eb4.9.1.a ec8.6.1.a f18.2.1.a",
  "f35.1.1.a f37.1.1.a f39.1.1.a f3a.4.1.8 f71.e.1.a f80.5.1.a f86.2.1.a f8d.b.1.a f99.24.1.a",
  "fc6.1.1.a 102d.4.1.a 1032.6.1.a 1039.2.1.a 103d.2.1.a 1058.2.1.a 105e.3.1.a 1071.4.1.a",
  "1082.1.1.a 1085.2.1.a 108d.1.1.a 109d.1.1.a 135d.3.1.a 1390.a.1.8 1400.1.1.8 169b.2.1.8",
  "1712.3.1.a 1732.2.1.a 1752.2.1.a 1772.2.1.a 17b4.2.1.a 17b7.7.1.a 17c6.1.1.a 17c9.b.1.a",
  "17db.1.1.7 17dd.1.1.a 17f0.a.1.8 1800.b.1.8 180b.3.1.a 180e.1.1.9 180f.1.1.a 1885.2.1.a",
  "18a9.1.1.a 1920.3.1.a 1927.2.1.a 1932.1.1.a 1939.3.1.a 1940.1.1.8 1944.2.1.8 19de.22.1.8",
  "1a17.2.1.a 1a1b.1.1.a 1a56.1.1.a 1a58.7.1.a 1a60.1.1.a 1a62.1.1.a 1a65.8.1.a 1a73.a.1.a",
  "1a7f.1.1.a 1ab0.1f.1.a 1b00.4.1.a 1b34.1.1.a 1b36.5.1.a 1b3c.1.1.a 1b42.1.1.a 1b6b.9.1.a",
  "1b80.2.1.a 1ba2.4.1.a 1ba8.2.1.a 1bab.3.1.a 1be6.1.1.a 1be8.2.1.a 1bed.1.1.a 1bef.3.1.a",
  "1c2c.8.1.a 1c36.2.1.a 1cd0.3.1.a 1cd4.d.1.a 1ce2.7.1.a 1ced.1.1.a 1cf4.1.1.a 1cf8.2.1.a",
  "1dc0.40.1.a 1fbd.1.1.8 1fbf.3.1.8 1fcd.3.1.8 1fdd.3.1.8 1fed.3.1.8 1ffd.2.1.8 2000.b.1.b",
  "200b.3.1.9 2010.14.1.8 2027.1.1.8 202f.1.1.6 2030.5.1.7 2035.f.1.8 2044.1.1.6 2045.1a.1.8",
  "205f.1.1.b 2060.5.1.9 206a.6.1.9 2070.1.1.4 2074.6.1.4 207a.2.1.5 207c.3.1.8 2080.a.1.4",
  "208a.2.1.5 208c.3.1.8 20a0.21.1.7 20d0.21.1.a 2100.2.1.8 2103.4.1.8 2108.2.1.8 2114.1.1.8",
  "2116.3.1.8 211e.6.1.8 2125.1.1.8 2127.1.1.8 2129.1.1.8 212e.1.1.7 213a.2.1.8 2140.5.1.8",
  "214a.4.1.8 2150.10.1.8 2189.3.1.8 2190.82.1.8 2212.1.1.5 2213.1.1.7 2214.122.1.8",
  "237b.1a.1.8 2396.91.1.8 2440.b.1.8 2460.28.1.8 24ea.1c2.1.8 26ad.153.1.8 2900.274.1.8",
  "2b76.20.1.8 2b97.69.1.8 2ce5.6.1.8 2cef.3.1.a 2cf9.7.1.8 2d7f.1.1.a 2de0.20.1.a 2e00.5e.1.8",
  "2e80.1a.1.8 2e9b.59.1.8 2f00.d6.1.8 3000.1.1.b 3001.4.1.8 3008.19.1.8 302a.4.1.a 3030.1.1.8",
  "3036.2.1.8 303d.3.1.8 3099.2.1.a 309b.2.1.8 30a0.1.1.8 30fb.1.1.8 31c0.24.1.8 321d.2.1.8",
  "3250.10.1.8 327c.3.1.8 32b1.f.1.8 32cc.4.1.8 3377.4.1.8 33de.2.1.8 33ff.1.1.8 4dc0.40.1.8",
  "a490.37.1.8 a60d.3.1.8 a66f.4.1.a a673.1.1.8 a674.a.1.a a67e.2.1.8 a69e.2.1.a a6f0.2.1.a",
  "a700.22.1.8 a788.1.1.8 a802.1.1.a a806.1.1.a a80b.1.1.a a825.2.1.a a828.4.1.8 a82c.1.1.a",
  "a838.2.1.7 a874.4.1.8 a8c4.2.1.a a8e0.12.1.a a8ff.1.1.a a926.8.1.a a947.b.1.a a980.3.1.a",
  "a9b3.1.1.a a9b6.4.1.a a9bc.2.1.a a9e5.1.1.a aa29.6.1.a aa31.2.1.a aa35.2.1.a aa43.1.1.a",
  "aa4c.1.1.a aa7c.1.1.a aab0.1.1.a aab2.3.1.a aab7.2.1.a aabe.2.1.a aac1.1.1.a aaec.2.1.a",
  "aaf6.1.1.a ab6a.2.1.8 abe5.1.1.a abe8.1.1.a abed.1.1.a fb1d.1.1.1 fb1e.1.1.a fb1f.a.1.1",
  "fb29.1.1.5 fb2a.d.1.1 fb38.5.1.1 fb3e.1.1.1 fb40.2.1.1 fb43.2.1.1 fb46.a.1.1 fb50.73.1.2",
  "fbd3.16b.1.2 fd3e.12.1.8 fd50.40.1.2 fd92.36.1.2 fdcf.1.1.8 fdf0.d.1.2 fdfd.3.1.8",
  "fe00.10.1.a fe10.2.1.8 fe13.6.1.8 fe20.10.1.a fe31.1f.1.8 fe50.1.1.6 fe51.1.1.8 fe54.1.1.8",
  "fe55.1.1.6 fe56.9.1.8 fe5f.1.1.7 fe60.2.1.8 fe62.2.1.5 fe64.3.1.8 fe68.1.1.8 fe69.2.1.7",
  "fe6b.1.1.8 fe70.5.1.2 fe76.87.1.2 feff.1.1.9 ff01.2.1.8 ff03.3.1.7 ff06.5.1.8 ff0b.1.1.5",
  "ff0c.1.1.6 ff0d.1.1.5 ff0e.2.1.6 ff10.a.1.4 ff1a.1.1.6 ff1b.6.1.8 ff3b.6.1.8 ff5b.b.1.8",
  "ffe0.2.1.7 ffe2.3.1.8 ffe5.2.1.7 ffe8.7.1.8 10101.1.1.8 10140.4d.1.8 10190.d.1.8",
  "101a0.1.1.8 101fd.1.1.a 102e0.1.1.a 102e1.1b.1.4 10376.5.1.a 10800.6.1.1 10808.1.1.1",
  "1080a.2c.1.1 10837.2.1.1 1083c.1.1.1 1083f.17.1.1 10857.48.1.1 108a7.9.1.1 108e0.13.1.1",
  "108f4.2.1.1 108fb.21.1.1 1091f.1.1.8 10920.1a.1.1 1093f.1.1.1 10980.38.1.1 109bc.14.1.1",
  "109d2.2f.1.1 10a01.3.1.a 10a05.2.1.a 10a0c.4.1.a 10a10.4.1.1 10a15.3.1.1 10a19.1d.1.1",
  "10a38.3.1.a 10a3f.1.1.a 10a40.9.1.1 10a50.9.1.1 10a60.40.1.1 10ac0.25.1.1 10ae5.2.1.a",
  "10aeb.c.1.1 10b00.36.1.1 10b39.7.1.8 10b40.16.1.1 10b58.1b.1.1 10b78.1a.1.1 10b99.4.1.1",
  "10ba9.7.1.1 10c00.49.1.1 10c80.33.1.1 10cc0.33.1.1 10cfa.6.1.1 10d00.24.1.2 10d24.4.1.a",
  "10d30.a.1.3 10e60.1f.1.3 10e80.2a.1.1 10eab.2.1.a 10ead.1.1.1 10eb0.2.1.1 10f00.28.1.1",
  "10f30.16.1.2 10f46.b.1.a 10f51.9.1.2 10f70.12.1.1 10f82.4.1.a 10f86.4.1.1 10fb0.1c.1.1",
  "10fe0.17.1.1 11001.1.1.a 11038.f.1.a 11052.14.1.8 11070.1.1.a 11073.2.1.a 1107f.3.1.a",
  "110b3.4.1.a 110b9.2.1.a 110c2.1.1.a 11100.3.1.a 11127.5.1.a 1112d.8.1.a 11173.1.1.a",
  "11180.2.1.a 111b6.9.1.a 111c9.4.1.a 111cf.1.1.a 1122f.3.1.a 11234.1.1.a 11236.2.1.a",
  "1123e.1.1.a 112df.1.1.a 112e3.8.1.a 11300.2.1.a 1133b.2.1.a 11340.1.1.a 11366.7.1.a",
  "11370.5.1.a 11438.8.1.a 11442.3.1.a 11446.1.1.a 1145e.1.1.a 114b3.6.1.a 114ba.1.1.a",
  "114bf.2.1.a 114c2.2.1.a 115b2.4.1.a 115bc.2.1.a 115bf.2.1.a 115dc.2.1.a 11633.8.1.a",
  "1163d.1.1.a 1163f.2.1.a 11660.d.1.8 116ab.1.1.a 116ad.1.1.a 116b0.6.1.a 116b7.1.1.a",
  "1171d.3.1.a 11722.4.1.a 11727.5.1.a 1182f.9.1.a 11839.2.1.a 1193b.2.1.a 1193e.1.1.a",
  "11943.1.1.a 119d4.4.1.a 119da.2.1.a 119e0.1.1.a 11a01.6.1.a 11a09.2.1.a 11a33.6.1.a",
  "11a3b.4.1.a 11a47.1.1.a 11a51.6.1.a 11a59.3.1.a 11a8a.d.1.a 11a98.2.1.a 11c30.7.1.a",
  "11c38.6.1.a 11c92.16.1.a 11caa.7.1.a 11cb2.2.1.a 11cb5.2.1.a 11d31.6.1.a 11d3a.1.1.a",
  "11d3c.2.1.a 11d3f.7.1.a 11d47.1.1.a 11d90.2.1.a 11d95.1.1.a 11d97.1.1.a 11ef3.2.1.a",
  "11fd5.8.1.8 11fdd.4.1.7 11fe1.11.1.8 16af0.5.1.a 16b30.7.1.a 16f4f.1.1.a 16f8f.4.1.a",
  "16fe2.1.1.8 16fe4.1.1.a 1bc9d.2.1.a 1bca0.4.1.9 1cf00.2e.1.a 1cf30.17.1.a 1d167.3.1.a",
  "1d173.8.1.9 1d17b.8.1.a 1d185.7.1.a 1d1aa.4.1.a 1d1e9.2.1.8 1d200.42.1.8 1d242.3.1.a",
  "1d245.1.1.8 1d300.57.1.8 1d6db.1.1.8 1d715.1.1.8 1d74f.1.1.8 1d789.1.1.8 1d7c3.1.1.8",
  "1d7ce.32.1.4 1da00.37.1.a 1da3b.32.1.a 1da75.1.1.a 1da84.1.1.a 1da9b.5.1.a 1daa1.f.1.a",
  "1e000.7.1.a 1e008.11.1.a 1e01b.7.1.a 1e023.2.1.a 1e026.5.1.a 1e130.7.1.a 1e2ae.1.1.a",
  "1e2ec.4.1.a 1e2ff.1.1.7 1e800.c5.1.1 1e8c7.9.1.1 1e8d0.7.1.a 1e900.44.1.1 1e944.7.1.a",
  "1e94b.1.1.1 1e950.a.1.1 1e95e.2.1.1 1ec71.44.1.2 1ed01.3d.1.2 1ee00.4.1.2 1ee05.1b.1.2",
  "1ee21.2.1.2 1ee24.1.1.2 1ee27.1.1.2 1ee29.a.1.2 1ee34.4.1.2 1ee39.1.1.2 1ee3b.1.1.2",
  "1ee42.1.1.2 1ee47.1.1.2 1ee49.1.1.2 1ee4b.1.1.2 1ee4d.3.1.2 1ee51.2.1.2 1ee54.1.1.2",
  "1ee57.1.1.2 1ee59.1.1.2 1ee5b.1.1.2 1ee5d.1.1.2 1ee5f.1.1.2 1ee61.2.1.2 1ee64.1.1.2",
  "1ee67.4.1.2 1ee6c.7.1.2 1ee74.4.1.2 1ee79.4.1.2 1ee7e.1.1.2 1ee80.a.1.2 1ee8b.11.1.2",
  "1eea1.3.1.2 1eea5.5.1.2 1eeab.11.1.2 1eef0.2.1.8 1f000.2c.1.8 1f030.64.1.8 1f0a0.f.1.8",
  "1f0b1.f.1.8 1f0c1.f.1.8 1f0d1.25.1.8 1f101.a.1.4 1f10b.5.1.8 1f12f.1.1.8 1f16a.6.1.8",
  "1f1ad.1.1.8 1f260.6.1.8 1f300.3d8.1.8 1f6dd.10.1.8 1f6f0.d.1.8 1f700.74.1.8 1f780.59.1.8",
  "1f7e0.c.1.8 1f7f0.1.1.8 1f800.c.1.8 1f810.38.1.8 1f850.a.1.8 1f860.28.1.8 1f890.1e.1.8",
  "1f8b0.2.1.8 1f900.154.1.8 1fa60.e.1.8 1fa70.5.1.8 1fa78.5.1.8 1fa80.7.1.8 1fa90.1d.1.8",
  "1fab0.b.1.8 1fac0.6.1.8 1fad0.a.1.8 1fae0.8.1.8 1faf0.7.1.8 1fb00.93.1.8 1fb94.37.1.8",
  "1fbf0.a.1.4 e0100.f0.1.a"]

def direction (c : Char) : Direction :=
  ((Run.value? directionRuns c).bind (directions[·]?)).getD .left

end OperatorKit.Unicode
