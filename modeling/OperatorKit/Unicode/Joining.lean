import OperatorKit.Unicode.Run

/-! How characters of a connected script join their neighbours. -/

namespace OperatorKit.Unicode

inductive Joining where
  | none
  | left
  | right
  | dual
  | transparent
deriving DecidableEq, Repr

/-- All ways of joining in the order of their numbers in the table. -/
def joinings : List Joining := [.none, .left, .right, .dual, .transparent]

def joiningRuns : List Run := Run.table [
  "ad.1.1.4 300.70.1.4 483.7.1.4 591.2d.1.4 5bf.1.1.4 5c1.2.1.4 5c4.2.1.4 5c7.1.1.4 610.b.1.4",
  "61c.1.1.4 620.1.1.3 622.4.1.2 626.1.1.3 627.1.1.2 628.1.1.3 629.1.1.2 62a.5.1.3 62f.4.1.2",
  "633.d.1.3 641.7.1.3 648.1.1.2 649.2.1.3 64b.15.1.4 66e.2.1.3 670.1.1.4 671.3.1.2 675.3.1.2",
  "678.10.1.3 688.12.1.2 69a.26.1.3 6c0.1.1.2 6c1.2.1.3 6c3.9.1.2 6cc.1.1.3 6cd.1.1.2",
  "6ce.1.1.3 6cf.1.1.2 6d0.2.1.3 6d2.2.1.2 6d5.1.1.2 6d6.7.1.4 6df.6.1.4 6e7.2.1.4 6ea.4.1.4",
  "6ee.2.1.2 6fa.3.1.3 6ff.1.1.3 70f.1.1.4 710.1.1.2 711.1.1.4 712.3.1.3 715.5.1.2 71a.4.1.3",
  "71e.1.1.2 71f.9.1.3 728.1.1.2 729.1.1.3 72a.1.1.2 72b.1.1.3 72c.1.1.2 72d.2.1.3 72f.1.1.2",
  "730.1b.1.4 74d.1.1.2 74e.b.1.3 759.3.1.2 75c.f.1.3 76b.2.1.2 76d.4.1.3 771.1.1.2 772.1.1.3",
  "773.2.1.2 775.3.1.3 778.2.1.2 77a.6.1.3 7a6.b.1.4 7ca.21.1.3 7eb.9.1.4 7fd.1.1.4 816.4.1.4",
  "81b.9.1.4 825.3.1.4 829.5.1.4 840.1.1.2 841.5.1.3 846.2.1.2 848.1.1.3 849.1.1.2 84a.a.1.3",
  "854.1.1.2 855.1.1.3 856.3.1.2 859.3.1.4 860.1.1.3 862.4.1.3 867.1.1.2 868.1.1.3 869.2.1.2",
  "870.13.1.2 886.1.1.3 889.5.1.3 88e.1.1.2 88f.1.1.3 897.9.1.4 8a0.a.1.3 8aa.3.1.2 8ae.1.1.2",
  "8af.2.1.3 8b1.2.1.2 8b3.6.1.3 8b9.1.1.2 8ba.f.1.3 8ca.18.1.4 8e3.20.1.4 93a.1.1.4 93c.1.1.4",
  "941.8.1.4 94d.1.1.4 951.7.1.4 962.2.1.4 981.1.1.4 9bc.1.1.4 9c1.4.1.4 9cd.1.1.4 9e2.2.1.4",
  "9fe.1.1.4 a01.2.1.4 a3c.1.1.4 a41.2.1.4 a47.2.1.4 a4b.3.1.4 a51.1.1.4 a70.2.1.4 a75.1.1.4",
  "a81.2.1.4 abc.1.1.4 ac1.5.1.4 ac7.2.1.4 acd.1.1.4 ae2.2.1.4 afa.6.1.4 b01.1.1.4 b3c.1.1.4",
  "b3f.1.1.4 b41.4.1.4 b4d.1.1.4 b55.2.1.4 b62.2.1.4 b82.1.1.4 bc0.1.1.4 bcd.1.1.4 c00.1.1.4",
  "c04.1.1.4 c3c.1.1.4 c3e.3.1.4 c46.3.1.4 c4a.4.1.4 c55.2.1.4 c62.2.1.4 c81.1.1.4 cbc.1.1.4",
  "cbf.1.1.4 cc6.1.1.4 ccc.2.1.4 ce2.2.1.4 d00.2.1.4 d3b.2.1.4 d41.4.1.4 d4d.1.1.4 d62.2.1.4",
  "d81.1.1.4 dca.1.1.4 dd2.3.1.4 dd6.1.1.4 e31.1.1.4 e34.7.1.4 e47.8.1.4 eb1.1.1.4 eb4.9.1.4",
  "ec8.7.1.4 f18.2.1.4 f35.1.1.4 f37.1.1.4 f39.1.1.4 f71.e.1.4 f80.5.1.4 f86.2.1.4 f8d.b.1.4",
  "f99.24.1.4 fc6.1.1.4 102d.4.1.4 1032.6.1.4 1039.2.1.4 103d.2.1.4 1058.2.1.4 105e.3.1.4",
  "1071.4.1.4 1082.1.1.4 1085.2.1.4 108d.1.1.4 109d.1.1.4 135d.3.1.4 1712.3.1.4 1732.2.1.4",
  "1752.2.1.4 1772.2.1.4 17b4.2.1.4 17b7.7.1.4 17c6.1.1.4 17c9.b.1.4 17dd.1.1.4 1807.1.1.3",
  "180b.3.1.4 180f.1.1.4 1820.59.1.3 1885.2.1.4 1887.22.1.3 18a9.1.1.4 18aa.1.1.3 1920.3.1.4",
  "1927.2.1.4 1932.1.1.4 1939.3.1.4 1a17.2.1.4 1a1b.1.1.4 1a56.1.1.4 1a58.7.1.4 1a60.1.1.4",
  "1a62.1.1.4 1a65.8.1.4 1a73.a.1.4 1a7f.1.1.4 1ab0.2e.1.4 1ae0.c.1.4 1b00.4.1.4 1b34.1.1.4",
  "1b36.5.1.4 1b3c.1.1.4 1b42.1.1.4 1b6b.9.1.4 1b80.2.1.4 1ba2.4.1.4 1ba8.2.1.4 1bab.3.1.4",
  "1be6.1.1.4 1be8.2.1.4 1bed.1.1.4 1bef.3.1.4 1c2c.8.1.4 1c36.2.1.4 1cd0.3.1.4 1cd4.d.1.4",
  "1ce2.7.1.4 1ced.1.1.4 1cf4.1.1.4 1cf8.2.1.4 1dc0.40.1.4 200b.1.1.4 200e.2.1.4 202a.5.1.4",
  "2060.5.1.4 206a.6.1.4 20d0.21.1.4 2cef.3.1.4 2d7f.1.1.4 2de0.20.1.4 302a.4.1.4 3099.2.1.4",
  "a66f.4.1.4 a674.a.1.4 a69e.2.1.4 a6f0.2.1.4 a802.1.1.4 a806.1.1.4 a80b.1.1.4 a825.2.1.4",
  "a82c.1.1.4 a840.32.1.3 a872.1.1.1 a8c4.2.1.4 a8e0.12.1.4 a8ff.1.1.4 a926.8.1.4 a947.b.1.4",
  "a980.3.1.4 a9b3.1.1.4 a9b6.4.1.4 a9bc.2.1.4 a9e5.1.1.4 aa29.6.1.4 aa31.2.1.4 aa35.2.1.4",
  "aa43.1.1.4 aa4c.1.1.4 aa7c.1.1.4 aab0.1.1.4 aab2.3.1.4 aab7.2.1.4 aabe.2.1.4 aac1.1.1.4",
  "aaec.2.1.4 aaf6.1.1.4 abe5.1.1.4 abe8.1.1.4 abed.1.1.4 fb1e.1.1.4 fe00.10.1.4 fe20.10.1.4",
  "feff.1.1.4 fff9.3.1.4 101fd.1.1.4 102e0.1.1.4 10376.5.1.4 10a01.3.1.4 10a05.2.1.4",
  "10a0c.4.1.4 10a38.3.1.4 10a3f.1.1.4 10ac0.5.1.3 10ac5.1.1.2 10ac7.1.1.2 10ac9.2.1.2",
  "10acd.1.1.1 10ace.5.1.2 10ad3.4.1.3 10ad7.1.1.1 10ad8.5.1.3 10add.1.1.2 10ade.3.1.3",
  "10ae1.1.1.2 10ae4.1.1.2 10ae5.2.1.4 10aeb.4.1.3 10aef.1.1.2 10b80.1.1.3 10b81.1.1.2",
  "10b82.1.1.3 10b83.3.1.2 10b86.3.1.3 10b89.1.1.2 10b8a.2.1.3 10b8c.1.1.2 10b8d.1.1.3",
  "10b8e.2.1.2 10b90.1.1.3 10b91.1.1.2 10ba9.4.1.2 10bad.2.1.3 10d00.1.1.1 10d01.21.1.3",
  "10d22.1.1.2 10d23.1.1.3 10d24.4.1.4 10d69.5.1.4 10eab.2.1.4 10ec2.1.1.2 10ec3.2.1.3",
  "10ec6.2.1.3 10efa.6.1.4 10f30.3.1.3 10f33.1.1.2 10f34.11.1.3 10f46.b.1.4 10f51.3.1.3",
  "10f54.1.1.2 10f70.4.1.3 10f74.2.1.2 10f76.c.1.3 10f82.4.1.4 10fb0.1.1.3 10fb2.2.1.3",
  "10fb4.3.1.2 10fb8.1.1.3 10fb9.2.1.2 10fbb.2.1.3 10fbd.1.1.2 10fbe.2.1.3 10fc1.1.1.3",
  "10fc2.2.1.2 10fc4.1.1.3 10fc9.1.1.2 10fca.1.1.3 10fcb.1.1.1 11001.1.1.4 11038.f.1.4",
  "11070.1.1.4 11073.2.1.4 1107f.3.1.4 110b3.4.1.4 110b9.2.1.4 110c2.1.1.4 11100.3.1.4",
  "11127.5.1.4 1112d.8.1.4 11173.1.1.4 11180.2.1.4 111b6.9.1.4 111c9.4.1.4 111cf.1.1.4",
  "1122f.3.1.4 11234.1.1.4 11236.2.1.4 1123e.1.1.4 11241.1.1.4 112df.1.1.4 112e3.8.1.4",
  "11300.2.1.4 1133b.2.1.4 11340.1.1.4 11366.7.1.4 11370.5.1.4 113bb.6.1.4 113ce.1.1.4",
  "113d0.1.1.4 113d2.1.1.4 113e1.2.1.4 11438.8.1.4 11442.3.1.4 11446.1.1.4 1145e.1.1.4",
  "114b3.6.1.4 114ba.1.1.4 114bf.2.1.4 114c2.2.1.4 115b2.4.1.4 115bc.2.1.4 115bf.2.1.4",
  "115dc.2.1.4 11633.8.1.4 1163d.1.1.4 1163f.2.1.4 116ab.1.1.4 116ad.1.1.4 116b0.6.1.4",
  "116b7.1.1.4 1171d.1.1.4 1171f.1.1.4 11722.4.1.4 11727.5.1.4 1182f.9.1.4 11839.2.1.4",
  "1193b.2.1.4 1193e.1.1.4 11943.1.1.4 119d4.4.1.4 119da.2.1.4 119e0.1.1.4 11a01.a.1.4",
  "11a33.6.1.4 11a3b.4.1.4 11a47.1.1.4 11a51.6.1.4 11a59.3.1.4 11a8a.d.1.4 11a98.2.1.4",
  "11b60.1.1.4 11b62.3.1.4 11b66.1.1.4 11c30.7.1.4 11c38.6.1.4 11c3f.1.1.4 11c92.16.1.4",
  "11caa.7.1.4 11cb2.2.1.4 11cb5.2.1.4 11d31.6.1.4 11d3a.1.1.4 11d3c.2.1.4 11d3f.7.1.4",
  "11d47.1.1.4 11d90.2.1.4 11d95.1.1.4 11d97.1.1.4 11ef3.2.1.4 11f00.2.1.4 11f36.5.1.4",
  "11f40.1.1.4 11f42.1.1.4 11f5a.1.1.4 13430.11.1.4 13447.f.1.4 1611e.c.1.4 1612d.3.1.4",
  "16af0.5.1.4 16b30.7.1.4 16f4f.1.1.4 16f8f.4.1.4 16fe4.1.1.4 1bc9d.2.1.4 1bca0.4.1.4",
  "1cf00.2e.1.4 1cf30.17.1.4 1d167.3.1.4 1d173.10.1.4 1d185.7.1.4 1d1aa.4.1.4 1d242.3.1.4",
  "1da00.37.1.4 1da3b.32.1.4 1da75.1.1.4 1da84.1.1.4 1da9b.5.1.4 1daa1.f.1.4 1e000.7.1.4",
  "1e008.11.1.4 1e01b.7.1.4 1e023.2.1.4 1e026.5.1.4 1e08f.1.1.4 1e130.7.1.4 1e2ae.1.1.4",
  "1e2ec.4.1.4 1e4ec.4.1.4 1e5ee.2.1.4 1e6e3.1.1.4 1e6e6.1.1.4 1e6ee.2.1.4 1e6f5.1.1.4",
  "1e8d0.7.1.4 1e900.44.1.3 1e944.8.1.4 e0001.1.1.4 e0020.60.1.4 e0100.f0.1.4"]

def joining (c : Char) : Joining :=
  ((Run.value? joiningRuns c).bind (joinings[·]?)).getD .none

end OperatorKit.Unicode
