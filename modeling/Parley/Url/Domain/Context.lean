import Parley.Text.Rows
import Parley.Url.Domain.Compose

/-!
# Where characters may stand in a label

A label of a domain must not start with a mark.  An invisible joiner may only stand where it
changes how its neighbours join, and a domain with letters written from right to left has labels
that read in one direction each.  The tables hold the characters above ASCII that matter for
these rules.
-/

namespace Parley

namespace Url

namespace Domain

namespace Context

/-- A first and a last combining mark. -/
def markText : String :=
  "300,36f 483,489 591,5bd 5bf,5bf 5c1,5c2 5c4,5c5 5c7,5c7 610,61a 64b,65f 670,670 6d6,6dc
   6df,6e4 6e7,6e8 6ea,6ed 711,711 730,74a 7a6,7b0 7eb,7f3 7fd,7fd 816,819 81b,823 825,827
   829,82d 859,85b 897,89f 8ca,8e1 8e3,903 93a,93c 93e,94f 951,957 962,963 981,983 9bc,9bc
   9be,9c4 9c7,9c8 9cb,9cd 9d7,9d7 9e2,9e3 9fe,9fe a01,a03 a3c,a3c a3e,a42 a47,a48 a4b,a4d
   a51,a51 a70,a71 a75,a75 a81,a83 abc,abc abe,ac5 ac7,ac9 acb,acd ae2,ae3 afa,aff b01,b03
   b3c,b3c b3e,b44 b47,b48 b4b,b4d b55,b57 b62,b63 b82,b82 bbe,bc2 bc6,bc8 bca,bcd bd7,bd7
   c00,c04 c3c,c3c c3e,c44 c46,c48 c4a,c4d c55,c56 c62,c63 c81,c83 cbc,cbc cbe,cc4 cc6,cc8
   cca,ccd cd5,cd6 ce2,ce3 cf3,cf3 d00,d03 d3b,d3c d3e,d44 d46,d48 d4a,d4d d57,d57 d62,d63
   d81,d83 dca,dca dcf,dd4 dd6,dd6 dd8,ddf df2,df3 e31,e31 e34,e3a e47,e4e eb1,eb1 eb4,ebc
   ec8,ece f18,f19 f35,f35 f37,f37 f39,f39 f3e,f3f f71,f84 f86,f87 f8d,f97 f99,fbc fc6,fc6
   102b,103e 1056,1059 105e,1060 1062,1064 1067,106d 1071,1074 1082,108d 108f,108f 109a,109d
   135d,135f 1712,1715 1732,1734 1752,1753 1772,1773 17b4,17d3 17dd,17dd 180b,180d 180f,180f
   1885,1886 18a9,18a9 1920,192b 1930,193b 1a17,1a1b 1a55,1a5e 1a60,1a7c 1a7f,1a7f 1ab0,1add
   1ae0,1aeb 1b00,1b04 1b34,1b44 1b6b,1b73 1b80,1b82 1ba1,1bad 1be6,1bf3 1c24,1c37 1cd0,1cd2
   1cd4,1ce8 1ced,1ced 1cf4,1cf4 1cf7,1cf9 1dc0,1dff 20d0,20f0 2cef,2cf1 2d7f,2d7f 2de0,2dff
   302a,302f 3099,309a a66f,a672 a674,a67d a69e,a69f a6f0,a6f1 a802,a802 a806,a806 a80b,a80b
   a823,a827 a82c,a82c a880,a881 a8b4,a8c5 a8e0,a8f1 a8ff,a8ff a926,a92d a947,a953 a980,a983
   a9b3,a9c0 a9e5,a9e5 aa29,aa36 aa43,aa43 aa4c,aa4d aa7b,aa7d aab0,aab0 aab2,aab4 aab7,aab8
   aabe,aabf aac1,aac1 aaeb,aaef aaf5,aaf6 abe3,abea abec,abed fb1e,fb1e fe00,fe0f fe20,fe2f
   101fd,101fd 102e0,102e0 10376,1037a 10a01,10a03 10a05,10a06 10a0c,10a0f 10a38,10a3a
   10a3f,10a3f 10ae5,10ae6 10d24,10d27 10d69,10d6d 10eab,10eac 10efa,10eff 10f46,10f50
   10f82,10f85 11000,11002 11038,11046 11070,11070 11073,11074 1107f,11082 110b0,110ba
   110c2,110c2 11100,11102 11127,11134 11145,11146 11173,11173 11180,11182 111b3,111c0
   111c9,111cc 111ce,111cf 1122c,11237 1123e,1123e 11241,11241 112df,112ea 11300,11303
   1133b,1133c 1133e,11344 11347,11348 1134b,1134d 11357,11357 11362,11363 11366,1136c
   11370,11374 113b8,113c0 113c2,113c2 113c5,113c5 113c7,113ca 113cc,113d0 113d2,113d2
   113e1,113e2 11435,11446 1145e,1145e 114b0,114c3 115af,115b5 115b8,115c0 115dc,115dd
   11630,11640 116ab,116b7 1171d,1172b 1182c,1183a 11930,11935 11937,11938 1193b,1193e
   11940,11940 11942,11943 119d1,119d7 119da,119e0 119e4,119e4 11a01,11a0a 11a33,11a39
   11a3b,11a3e 11a47,11a47 11a51,11a5b 11a8a,11a99 11b60,11b67 11c2f,11c36 11c38,11c3f
   11c92,11ca7 11ca9,11cb6 11d31,11d36 11d3a,11d3a 11d3c,11d3d 11d3f,11d45 11d47,11d47
   11d8a,11d8e 11d90,11d91 11d93,11d97 11ef3,11ef6 11f00,11f01 11f03,11f03 11f34,11f3a
   11f3e,11f42 11f5a,11f5a 13440,13440 13447,13455 1611e,1612f 16af0,16af4 16b30,16b36
   16f4f,16f4f 16f51,16f87 16f8f,16f92 16fe4,16fe4 16ff0,16ff1 1bc9d,1bc9e 1cf00,1cf2d
   1cf30,1cf46 1d165,1d169 1d16d,1d172 1d17b,1d182 1d185,1d18b 1d1aa,1d1ad 1d242,1d244
   1da00,1da36 1da3b,1da6c 1da75,1da75 1da84,1da84 1da9b,1da9f 1daa1,1daaf 1e000,1e006
   1e008,1e018 1e01b,1e021 1e023,1e024 1e026,1e02a 1e08f,1e08f 1e130,1e136 1e2ae,1e2ae
   1e2ec,1e2ef 1e4ec,1e4ef 1e5ee,1e5ef 1e6e3,1e6e3 1e6e6,1e6e6 1e6ee,1e6ef 1e6f5,1e6f5
   1e8d0,1e8d6 1e944,1e94a e0100,e01ef"

/-- A first and a last character, and how they join: to the left (0), to the right (1), on both
sides (2), or not at all and without a trace (3). -/
def joiningText : String :=
  "ad,ad,3 300,36f,3 483,489,3 591,5bd,3 5bf,5bf,3 5c1,5c2,3 5c4,5c5,3 5c7,5c7,3 610,61a,3
   61c,61c,3 620,620,2 622,625,1 626,626,2 627,627,1 628,628,2 629,629,1 62a,62e,2 62f,632,1
   633,63f,2 641,647,2 648,648,1 649,64a,2 64b,65f,3 66e,66f,2 670,670,3 671,673,1 675,677,1
   678,687,2 688,699,1 69a,6bf,2 6c0,6c0,1 6c1,6c2,2 6c3,6cb,1 6cc,6cc,2 6cd,6cd,1 6ce,6ce,2
   6cf,6cf,1 6d0,6d1,2 6d2,6d3,1 6d5,6d5,1 6d6,6dc,3 6df,6e4,3 6e7,6e8,3 6ea,6ed,3 6ee,6ef,1
   6fa,6fc,2 6ff,6ff,2 70f,70f,3 710,710,1 711,711,3 712,714,2 715,719,1 71a,71d,2 71e,71e,1
   71f,727,2 728,728,1 729,729,2 72a,72a,1 72b,72b,2 72c,72c,1 72d,72e,2 72f,72f,1 730,74a,3
   74d,74d,1 74e,758,2 759,75b,1 75c,76a,2 76b,76c,1 76d,770,2 771,771,1 772,772,2 773,774,1
   775,777,2 778,779,1 77a,77f,2 7a6,7b0,3 7ca,7ea,2 7eb,7f3,3 7fd,7fd,3 816,819,3 81b,823,3
   825,827,3 829,82d,3 840,840,1 841,845,2 846,847,1 848,848,2 849,849,1 84a,853,2 854,854,1
   855,855,2 856,858,1 859,85b,3 860,860,2 862,865,2 867,867,1 868,868,2 869,86a,1 870,882,1
   886,886,2 889,88d,2 88e,88e,1 88f,88f,2 897,89f,3 8a0,8a9,2 8aa,8ac,1 8ae,8ae,1 8af,8b0,2
   8b1,8b2,1 8b3,8b8,2 8b9,8b9,1 8ba,8c8,2 8ca,8e1,3 8e3,902,3 93a,93a,3 93c,93c,3 941,948,3
   94d,94d,3 951,957,3 962,963,3 981,981,3 9bc,9bc,3 9c1,9c4,3 9cd,9cd,3 9e2,9e3,3 9fe,9fe,3
   a01,a02,3 a3c,a3c,3 a41,a42,3 a47,a48,3 a4b,a4d,3 a51,a51,3 a70,a71,3 a75,a75,3 a81,a82,3
   abc,abc,3 ac1,ac5,3 ac7,ac8,3 acd,acd,3 ae2,ae3,3 afa,aff,3 b01,b01,3 b3c,b3c,3 b3f,b3f,3
   b41,b44,3 b4d,b4d,3 b55,b56,3 b62,b63,3 b82,b82,3 bc0,bc0,3 bcd,bcd,3 c00,c00,3 c04,c04,3
   c3c,c3c,3 c3e,c40,3 c46,c48,3 c4a,c4d,3 c55,c56,3 c62,c63,3 c81,c81,3 cbc,cbc,3 cbf,cbf,3
   cc6,cc6,3 ccc,ccd,3 ce2,ce3,3 d00,d01,3 d3b,d3c,3 d41,d44,3 d4d,d4d,3 d62,d63,3 d81,d81,3
   dca,dca,3 dd2,dd4,3 dd6,dd6,3 e31,e31,3 e34,e3a,3 e47,e4e,3 eb1,eb1,3 eb4,ebc,3 ec8,ece,3
   f18,f19,3 f35,f35,3 f37,f37,3 f39,f39,3 f71,f7e,3 f80,f84,3 f86,f87,3 f8d,f97,3 f99,fbc,3
   fc6,fc6,3 102d,1030,3 1032,1037,3 1039,103a,3 103d,103e,3 1058,1059,3 105e,1060,3
   1071,1074,3 1082,1082,3 1085,1086,3 108d,108d,3 109d,109d,3 135d,135f,3 1712,1714,3
   1732,1733,3 1752,1753,3 1772,1773,3 17b4,17b5,3 17b7,17bd,3 17c6,17c6,3 17c9,17d3,3
   17dd,17dd,3 1807,1807,2 180b,180d,3 180f,180f,3 1820,1878,2 1885,1886,3 1887,18a8,2
   18a9,18a9,3 18aa,18aa,2 1920,1922,3 1927,1928,3 1932,1932,3 1939,193b,3 1a17,1a18,3
   1a1b,1a1b,3 1a56,1a56,3 1a58,1a5e,3 1a60,1a60,3 1a62,1a62,3 1a65,1a6c,3 1a73,1a7c,3
   1a7f,1a7f,3 1ab0,1add,3 1ae0,1aeb,3 1b00,1b03,3 1b34,1b34,3 1b36,1b3a,3 1b3c,1b3c,3
   1b42,1b42,3 1b6b,1b73,3 1b80,1b81,3 1ba2,1ba5,3 1ba8,1ba9,3 1bab,1bad,3 1be6,1be6,3
   1be8,1be9,3 1bed,1bed,3 1bef,1bf1,3 1c2c,1c33,3 1c36,1c37,3 1cd0,1cd2,3 1cd4,1ce0,3
   1ce2,1ce8,3 1ced,1ced,3 1cf4,1cf4,3 1cf8,1cf9,3 1dc0,1dff,3 200b,200b,3 200e,200f,3
   202a,202e,3 2060,2064,3 206a,206f,3 20d0,20f0,3 2cef,2cf1,3 2d7f,2d7f,3 2de0,2dff,3
   302a,302d,3 3099,309a,3 a66f,a672,3 a674,a67d,3 a69e,a69f,3 a6f0,a6f1,3 a802,a802,3
   a806,a806,3 a80b,a80b,3 a825,a826,3 a82c,a82c,3 a840,a871,2 a872,a872,0 a8c4,a8c5,3
   a8e0,a8f1,3 a8ff,a8ff,3 a926,a92d,3 a947,a951,3 a980,a982,3 a9b3,a9b3,3 a9b6,a9b9,3
   a9bc,a9bd,3 a9e5,a9e5,3 aa29,aa2e,3 aa31,aa32,3 aa35,aa36,3 aa43,aa43,3 aa4c,aa4c,3
   aa7c,aa7c,3 aab0,aab0,3 aab2,aab4,3 aab7,aab8,3 aabe,aabf,3 aac1,aac1,3 aaec,aaed,3
   aaf6,aaf6,3 abe5,abe5,3 abe8,abe8,3 abed,abed,3 fb1e,fb1e,3 fe00,fe0f,3 fe20,fe2f,3
   feff,feff,3 fff9,fffb,3 101fd,101fd,3 102e0,102e0,3 10376,1037a,3 10a01,10a03,3
   10a05,10a06,3 10a0c,10a0f,3 10a38,10a3a,3 10a3f,10a3f,3 10ac0,10ac4,2 10ac5,10ac5,1
   10ac7,10ac7,1 10ac9,10aca,1 10acd,10acd,0 10ace,10ad2,1 10ad3,10ad6,2 10ad7,10ad7,0
   10ad8,10adc,2 10add,10add,1 10ade,10ae0,2 10ae1,10ae1,1 10ae4,10ae4,1 10ae5,10ae6,3
   10aeb,10aee,2 10aef,10aef,1 10b80,10b80,2 10b81,10b81,1 10b82,10b82,2 10b83,10b85,1
   10b86,10b88,2 10b89,10b89,1 10b8a,10b8b,2 10b8c,10b8c,1 10b8d,10b8d,2 10b8e,10b8f,1
   10b90,10b90,2 10b91,10b91,1 10ba9,10bac,1 10bad,10bae,2 10d00,10d00,0 10d01,10d21,2
   10d22,10d22,1 10d23,10d23,2 10d24,10d27,3 10d69,10d6d,3 10eab,10eac,3 10ec2,10ec2,1
   10ec3,10ec4,2 10ec6,10ec7,2 10efa,10eff,3 10f30,10f32,2 10f33,10f33,1 10f34,10f44,2
   10f46,10f50,3 10f51,10f53,2 10f54,10f54,1 10f70,10f73,2 10f74,10f75,1 10f76,10f81,2
   10f82,10f85,3 10fb0,10fb0,2 10fb2,10fb3,2 10fb4,10fb6,1 10fb8,10fb8,2 10fb9,10fba,1
   10fbb,10fbc,2 10fbd,10fbd,1 10fbe,10fbf,2 10fc1,10fc1,2 10fc2,10fc3,1 10fc4,10fc4,2
   10fc9,10fc9,1 10fca,10fca,2 10fcb,10fcb,0 11001,11001,3 11038,11046,3 11070,11070,3
   11073,11074,3 1107f,11081,3 110b3,110b6,3 110b9,110ba,3 110c2,110c2,3 11100,11102,3
   11127,1112b,3 1112d,11134,3 11173,11173,3 11180,11181,3 111b6,111be,3 111c9,111cc,3
   111cf,111cf,3 1122f,11231,3 11234,11234,3 11236,11237,3 1123e,1123e,3 11241,11241,3
   112df,112df,3 112e3,112ea,3 11300,11301,3 1133b,1133c,3 11340,11340,3 11366,1136c,3
   11370,11374,3 113bb,113c0,3 113ce,113ce,3 113d0,113d0,3 113d2,113d2,3 113e1,113e2,3
   11438,1143f,3 11442,11444,3 11446,11446,3 1145e,1145e,3 114b3,114b8,3 114ba,114ba,3
   114bf,114c0,3 114c2,114c3,3 115b2,115b5,3 115bc,115bd,3 115bf,115c0,3 115dc,115dd,3
   11633,1163a,3 1163d,1163d,3 1163f,11640,3 116ab,116ab,3 116ad,116ad,3 116b0,116b5,3
   116b7,116b7,3 1171d,1171d,3 1171f,1171f,3 11722,11725,3 11727,1172b,3 1182f,11837,3
   11839,1183a,3 1193b,1193c,3 1193e,1193e,3 11943,11943,3 119d4,119d7,3 119da,119db,3
   119e0,119e0,3 11a01,11a0a,3 11a33,11a38,3 11a3b,11a3e,3 11a47,11a47,3 11a51,11a56,3
   11a59,11a5b,3 11a8a,11a96,3 11a98,11a99,3 11b60,11b60,3 11b62,11b64,3 11b66,11b66,3
   11c30,11c36,3 11c38,11c3d,3 11c3f,11c3f,3 11c92,11ca7,3 11caa,11cb0,3 11cb2,11cb3,3
   11cb5,11cb6,3 11d31,11d36,3 11d3a,11d3a,3 11d3c,11d3d,3 11d3f,11d45,3 11d47,11d47,3
   11d90,11d91,3 11d95,11d95,3 11d97,11d97,3 11ef3,11ef4,3 11f00,11f01,3 11f36,11f3a,3
   11f40,11f40,3 11f42,11f42,3 11f5a,11f5a,3 13430,13440,3 13447,13455,3 1611e,16129,3
   1612d,1612f,3 16af0,16af4,3 16b30,16b36,3 16f4f,16f4f,3 16f8f,16f92,3 16fe4,16fe4,3
   1bc9d,1bc9e,3 1bca0,1bca3,3 1cf00,1cf2d,3 1cf30,1cf46,3 1d167,1d169,3 1d173,1d182,3
   1d185,1d18b,3 1d1aa,1d1ad,3 1d242,1d244,3 1da00,1da36,3 1da3b,1da6c,3 1da75,1da75,3
   1da84,1da84,3 1da9b,1da9f,3 1daa1,1daaf,3 1e000,1e006,3 1e008,1e018,3 1e01b,1e021,3
   1e023,1e024,3 1e026,1e02a,3 1e08f,1e08f,3 1e130,1e136,3 1e2ae,1e2ae,3 1e2ec,1e2ef,3
   1e4ec,1e4ef,3 1e5ee,1e5ef,3 1e6e3,1e6e3,3 1e6e6,1e6e6,3 1e6ee,1e6ef,3 1e6f5,1e6f5,3
   1e8d0,1e8d6,3 1e900,1e943,2 1e944,1e94b,3 e0001,e0001,3 e0020,e007f,3 e0100,e01ef,3"

/-- A first and a last character, and their direction: letters from right to left (0), Arabic digits
(1), other digits (2), neutral characters (3), marks (4), separators (5).  All others are letters
from left to right. -/
def directionText : String :=
  "0,8,3 9,d,5 e,1b,3 1c,20,5 21,2f,3 30,39,2 3a,60,3 7b,d7,3 f7,f7,3 2b9,2ba,3 2c2,2cf,3
   2d2,2ed,3 2ef,2ff,3 300,36f,4 375,375,3 3f6,3f6,3 483,489,4 58a,58f,3 591,5bd,4 5be,5be,0
   5bf,5bf,4 5c0,5c0,0 5c1,5c2,4 5c3,5c3,0 5c4,5c5,4 5c6,5c6,0 5c7,5c7,4 5d0,5f4,0 606,607,3
   608,608,0 609,60a,3 60b,60b,0 60c,60c,3 60d,60d,0 60e,60f,3 610,61a,4 61b,64a,0 64b,65f,4
   660,669,1 66a,66a,3 66b,66c,1 66d,66f,0 670,670,4 671,6d5,0 6d6,6dc,4 6de,6de,3 6df,6e4,4
   6e5,6e6,0 6e7,6e8,4 6e9,6e9,3 6ea,6ed,4 6ee,6ef,0 6f0,6f9,2 6fa,710,0 711,711,4 712,72f,0
   730,74a,4 74d,7a5,0 7a6,7b0,4 7b1,7ea,0 7eb,7f3,4 7f4,7f5,0 7f6,7f9,3 7fa,7fa,0 7fd,7fd,4
   7fe,815,0 816,819,4 81a,81a,0 81b,823,4 824,824,0 825,827,4 828,828,0 829,82d,4 830,858,0
   859,85b,4 85e,897,0 898,89f,4 8a0,8c9,0 8ca,902,4 93a,93a,4 93c,93c,4 941,948,4 94d,94d,4
   951,957,4 962,963,4 981,981,4 9bc,9bc,4 9c1,9c4,4 9cd,9cd,4 9e2,9e3,4 9f2,9f3,3 9fb,9fb,3
   9fe,a02,4 a3c,a3c,4 a41,a51,4 a70,a71,4 a75,a75,4 a81,a82,4 abc,abc,4 ac1,ac8,4 acd,acd,4
   ae2,ae3,4 af1,af1,3 afa,b01,4 b3c,b3c,4 b3f,b3f,4 b41,b44,4 b4d,b56,4 b62,b63,4 b82,b82,4
   bc0,bc0,4 bcd,bcd,4 bf3,bfa,3 c00,c00,4 c04,c04,4 c3c,c3c,4 c3e,c40,4 c46,c56,4 c62,c63,4
   c78,c7e,3 c81,c81,4 cbc,cbc,4 ccc,ccd,4 ce2,ce3,4 d00,d01,4 d3b,d3c,4 d41,d44,4 d4d,d4d,4
   d62,d63,4 d81,d81,4 dca,dca,4 dd2,dd6,4 e31,e31,4 e34,e3a,4 e3f,e3f,3 e47,e4e,4 eb1,eb1,4
   eb4,ebc,4 ec8,ece,4 f18,f19,4 f35,f35,4 f37,f37,4 f39,f39,4 f3a,f3d,3 f71,f7e,4 f80,f84,4
   f86,f87,4 f8d,fbc,4 fc6,fc6,4 102d,1030,4 1032,1037,4 1039,103a,4 103d,103e,4 1058,1059,4
   105e,1060,4 1071,1074,4 1082,1082,4 1085,1086,4 108d,108d,4 109d,109d,4 135d,135f,4
   1390,1399,3 1400,1400,3 169b,169c,3 1712,1714,4 1732,1733,4 1752,1753,4 1772,1773,4
   17b7,17bd,4 17c6,17c6,4 17c9,17d3,4 17db,17db,3 17dd,17dd,4 17f0,180a,3 1885,1886,4
   18a9,18a9,4 1920,1922,4 1927,1928,4 1932,1932,4 1939,193b,4 1940,1945,3 19de,19ff,3
   1a17,1a18,4 1a1b,1a1b,4 1a56,1a56,4 1a58,1a60,4 1a62,1a62,4 1a65,1a6c,4 1a73,1a7f,4
   1ab0,1ace,4 1b00,1b03,4 1b34,1b34,4 1b36,1b3a,4 1b3c,1b3c,4 1b42,1b42,4 1b6b,1b73,4
   1b80,1b81,4 1ba2,1ba5,4 1ba8,1ba9,4 1bab,1bad,4 1be6,1be6,4 1be8,1be9,4 1bed,1bed,4
   1bef,1bf1,4 1c2c,1c33,4 1c36,1c37,4 1cd0,1cd2,4 1cd4,1ce0,4 1ce2,1ce8,4 1ced,1ced,4
   1cf4,1cf4,4 1cf8,1cf9,4 1dc0,1dff,4 200c,20c1,3 20d0,20f0,4 2104,214d,3 218a,2335,3
   237b,2394,3 2396,2426,3 2440,26ab,3 26ad,27ff,3 2900,2b95,3 2b97,2bff,3 2ce5,2cea,3
   2cef,2cf1,4 2cf9,2cff,3 2d7f,2d7f,4 2de0,2dff,4 2e00,3004,3 3008,3020,3 302a,302d,4
   3030,3030,3 3037,3037,3 303d,303f,3 3099,309a,4 30a0,30a0,3 30fb,30fb,3 31c0,31e3,3
   4dc0,4dff,3 a490,a4c6,3 a60d,a60f,3 a66f,a672,4 a673,a673,3 a674,a67d,4 a67e,a67f,3
   a69e,a69f,4 a6f0,a6f1,4 a700,a721,3 a788,a788,3 a802,a802,4 a806,a806,4 a80b,a80b,4
   a825,a826,4 a828,a82b,3 a82c,a82c,4 a838,a839,3 a874,a877,3 a8c4,a8c5,4 a8e0,a8f1,4
   a8ff,a8ff,4 a926,a92d,4 a947,a951,4 a980,a982,4 a9b3,a9b3,4 a9b6,a9b9,4 a9bc,a9bd,4
   a9e5,a9e5,4 aa29,aa2e,4 aa31,aa32,4 aa35,aa36,4 aa43,aa43,4 aa4c,aa4c,4 aa7c,aa7c,4
   aab0,aab0,4 aab2,aab4,4 aab7,aab8,4 aabe,aabf,4 aac1,aac1,4 aaec,aaed,4 aaf6,aaf6,4
   ab6a,ab6b,3 abe5,abe5,4 abe8,abe8,4 abed,abed,4 fb1e,fb1e,4 fbb2,fbd2,0 fd3e,fd4f,3
   fd90,fdce,0 fdcf,fdff,3 fe20,fe2f,4 fe45,fe46,3 fe73,fe73,0 10101,10101,3 10140,1018c,3
   10190,101a0,3 101fd,101fd,4 102e0,102e0,4 102e1,102fb,2 10376,1037a,4 10800,1091b,0
   1091f,1091f,3 10920,10a00,0 10a01,10a0f,4 10a10,10a35,0 10a38,10a3f,4 10a40,10ae4,0
   10ae5,10ae6,4 10aeb,10b35,0 10b39,10b3f,3 10b40,10d23,0 10d24,10d27,4 10d30,10d39,1
   10d40,10d8f,0 10e60,10e7e,1 10e80,10ea9,0 10eab,10eac,4 10ead,10efc,0 10efd,10eff,4
   10f00,10f45,0 10f46,10f50,4 10f51,10f81,0 10f82,10f85,4 10f86,10ff6,0 11001,11001,4
   11038,11046,4 11052,11065,3 11070,11070,4 11073,11074,4 1107f,11081,4 110b3,110b6,4
   110b9,110ba,4 110c2,110c2,4 11100,11102,4 11127,1112b,4 1112d,11134,4 11173,11173,4
   11180,11181,4 111b6,111be,4 111c9,111cc,4 111cf,111cf,4 1122f,11231,4 11234,11234,4
   11236,11237,4 1123e,1123e,4 11241,11241,4 112df,112df,4 112e3,112ea,4 11300,11301,4
   1133b,1133c,4 11340,11340,4 11366,11374,4 11438,1143f,4 11442,11444,4 11446,11446,4
   1145e,1145e,4 114b3,114b8,4 114ba,114ba,4 114bf,114c0,4 114c2,114c3,4 115b2,115b5,4
   115bc,115bd,4 115bf,115c0,4 115dc,115dd,4 11633,1163a,4 1163d,1163d,4 1163f,11640,4
   11660,1166c,3 116ab,116ab,4 116ad,116ad,4 116b0,116b5,4 116b7,116b7,4 1171d,1171f,4
   11722,11725,4 11727,1172b,4 1182f,11837,4 11839,1183a,4 1193b,1193c,4 1193e,1193e,4
   11943,11943,4 119d4,119db,4 119e0,119e0,4 11a01,11a06,4 11a09,11a0a,4 11a33,11a38,4
   11a3b,11a3e,4 11a47,11a47,4 11a51,11a56,4 11a59,11a5b,4 11a8a,11a96,4 11a98,11a99,4
   11c30,11c3d,4 11c92,11ca7,4 11caa,11cb0,4 11cb2,11cb3,4 11cb5,11cb6,4 11d31,11d45,4
   11d47,11d47,4 11d90,11d91,4 11d95,11d95,4 11d97,11d97,4 11ef3,11ef4,4 11f00,11f01,4
   11f36,11f3a,4 11f40,11f40,4 11f42,11f42,4 11fd5,11ff1,3 13440,13440,4 13447,13455,4
   16af0,16af4,4 16b30,16b36,4 16f4f,16f4f,4 16f8f,16f92,4 16fe2,16fe2,3 16fe4,16fe4,4
   1bc9d,1bc9e,4 1cf00,1cf46,4 1d167,1d169,4 1d17b,1d182,4 1d185,1d18b,4 1d1aa,1d1ad,4
   1d1e9,1d241,3 1d242,1d244,4 1d245,1d245,3 1d300,1d356,3 1da00,1da36,4 1da3b,1da6c,4
   1da75,1da75,4 1da84,1da84,4 1da9b,1daaf,4 1e000,1e08f,4 1e130,1e136,4 1e2ae,1e2ae,4
   1e2ec,1e2ef,4 1e2ff,1e2ff,3 1e4ec,1e4ef,4 1e800,1e8cf,0 1e8d0,1e8d6,4 1e922,1e943,0
   1e944,1e94a,4 1e94b,1ed3d,0 1eef0,1f12f,3 1f16d,1f16f,3 1f1ad,1f1ad,3 1f260,1f6d7,3
   1f6dc,1f776,3 1f77b,1f8b1,3 1f900,1fa53,3 1fa60,1fa88,3 1fa90,1fabd,3 1fabf,1fac5,3
   1face,1fadb,3 1fae0,1fae8,3 1faf0,1fbca,3"

/-- The rows of `markText`. -/
def marks : List (List Nat) := Text.rows markText

/-- The rows of `joiningText`. -/
def joinings : List (List Nat) := Text.rows joiningText

/-- The rows of `directionText`. -/
def directions : List (List Nat) := Text.rows directionText

/-- The last number of the row whose range holds `n`. -/
def classIn (rows : List (List Nat)) (n : Nat) : Option Nat :=
  rows.findSome? fun row =>
    match row with
    | [first, last, k] => if first ≤ n ∧ n ≤ last then some k else none
    | _ => none

/-- The character is a combining mark. -/
def isMark (c : Char) : Bool := 0x80 ≤ c.toNat && Text.inRows marks c.toNat

/-! ### Joiners -/

/-- The first character that is not passed over, and whether it joins as one of `kinds` says. -/
def joinsAs (kinds : List Nat) : Chars → Bool
  | [] => false
  | c :: r =>
    match classIn joinings c.toNat with
    | some 3 => joinsAs kinds r
    | some k => kinds.contains k
    | none => false

/-- Every joiner stands where it may; `before` is the text before, last first. -/
def joinersFit (before : Chars) : Chars → Bool
  | [] => true
  | c :: r =>
    let behindVirama := (before.head?.map Compose.classOf) = some 9
    let fits :=
      if c.toNat = 0x200D then behindVirama
      else if c.toNat = 0x200C then behindVirama || (joinsAs [0, 2] before && joinsAs [1, 2] r)
      else true
    fits && joinersFit (c :: before) r

/-! ### Directions -/

/-- How a character reads. -/
inductive Direction where
  /-- A letter from left to right. -/
  | ltr
  /-- A letter from right to left. -/
  | rtl
  /-- An Arabic digit. -/
  | arabicDigit
  /-- Another digit. -/
  | digit
  /-- A neutral character. -/
  | neutral
  /-- A mark. -/
  | mark
  /-- A separator. -/
  | separator
  deriving DecidableEq

/-- How a character reads. -/
def direction (c : Char) : Direction :=
  match classIn directions c.toNat with
  | some 0 => .rtl
  | some 1 => .arabicDigit
  | some 2 => .digit
  | some 3 => .neutral
  | some 4 => .mark
  | some _ => .separator
  | none => .ltr

/-- The text has characters that are written from right to left; no ASCII character is. -/
def hasRtl (s : Chars) : Bool :=
  s.any (fun c => 0x80 ≤ c.toNat && (direction c = .rtl || direction c = .arabicDigit))

/-- The direction of the last character that is no mark. -/
def lastDirection (ds : List Direction) : Option Direction :=
  (ds.reverse.dropWhile (· = .mark)).head?

/-- A label reads in one direction. -/
def oneDirection (label : Chars) : Bool :=
  let ds := label.map direction
  match ds.head? with
  | none => true
  | some .rtl =>
    ds.all (· ∈ [.rtl, .arabicDigit, .digit, .neutral, .mark]) &&
      (match lastDirection ds with
        | some d => d ∈ [.rtl, .arabicDigit, .digit]
        | none => false) &&
      !(ds.contains .arabicDigit && ds.contains .digit)
  | some .ltr =>
    ds.all (· ∈ [.ltr, .digit, .neutral, .mark]) &&
      (match lastDirection ds with
        | some d => d ∈ [.ltr, .digit]
        | none => false)
  | some _ => false

end Context

end Domain

end Url

end Parley
