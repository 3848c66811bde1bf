import Playground.Unicode.Ranges
import Playground.Unicode.Unassigned
import Playground.Url.Spelling

/-!
How the characters of names are written. Capital letters become small ones, letters in other widths
and styles become plain ones, signs are spelled out, the full stops of other scripts become dots,
and characters that are not seen are dropped.
-/

namespace Playground.Url.Folding

open Unicode

/-- Rows of characters that are written as those of another row: the first one and the last one,
the step between two, and the first one of the other row. -/
def rows : List (Nat × Nat × Nat × Nat) := [
  (0xb2, 0xb3, 1, 0x32), (0xc0, 0xd6, 1, 0xe0), (0xd8, 0xde, 1, 0xf8), (0x100, 0x12e, 2, 0x101),
  (0x134, 0x136, 2, 0x135), (0x139, 0x13d, 2, 0x13a), (0x141, 0x147, 2, 0x142),
  (0x14a, 0x176, 2, 0x14b), (0x179, 0x17d, 2, 0x17a), (0x182, 0x184, 2, 0x183),
  (0x189, 0x18a, 1, 0x256), (0x1a0, 0x1a4, 2, 0x1a1), (0x1b1, 0x1b2, 1, 0x28a),
  (0x1b3, 0x1b5, 2, 0x1b4), (0x1cd, 0x1db, 2, 0x1ce), (0x1de, 0x1ee, 2, 0x1df),
  (0x1f8, 0x21e, 2, 0x1f9), (0x222, 0x232, 2, 0x223), (0x246, 0x24e, 2, 0x247),
  (0x2b0, 0x2b2, 2, 0x68), (0x370, 0x372, 2, 0x371), (0x388, 0x38a, 1, 0x3ad),
  (0x38e, 0x38f, 1, 0x3cd), (0x391, 0x3a1, 1, 0x3b1), (0x3a3, 0x3ab, 1, 0x3c3),
  (0x3d8, 0x3ee, 2, 0x3d9), (0x3fd, 0x3ff, 1, 0x37b), (0x400, 0x40f, 1, 0x450),
  (0x410, 0x42f, 1, 0x430), (0x460, 0x480, 2, 0x461), (0x48a, 0x4be, 2, 0x48b),
  (0x4c1, 0x4cd, 2, 0x4c2), (0x4d0, 0x52e, 2, 0x4d1), (0x531, 0x556, 1, 0x561),
  (0x10a0, 0x10c5, 1, 0x2d00), (0x13f8, 0x13fd, 1, 0x13f0), (0x1c83, 0x1c84, 1, 0x441),
  (0x1c90, 0x1cba, 1, 0x10d0), (0x1cbd, 0x1cbf, 1, 0x10fd), (0x1d2e, 0x1d30, 2, 0x62),
  (0x1d31, 0x1d39, 2, 0x65), (0x1d34, 0x1d3a, 2, 0x68), (0x1d40, 0x1d41, 1, 0x74),
  (0x1d44, 0x1d45, 1, 0x250), (0x1d48, 0x1d49, 1, 0x64), (0x1d4b, 0x1d4c, 1, 0x25b),
  (0x1d50, 0x1d52, 2, 0x6d), (0x1d54, 0x1d55, 1, 0x1d16), (0x1d57, 0x1d58, 1, 0x74),
  (0x1d5d, 0x1d5f, 1, 0x3b2), (0x1d60, 0x1d61, 1, 0x3c6), (0x1d64, 0x1d65, 1, 0x75),
  (0x1d66, 0x1d67, 1, 0x3b2), (0x1d69, 0x1d6a, 1, 0x3c6), (0x1da4, 0x1da6, 1, 0x268),
  (0x1dae, 0x1db1, 1, 0x272), (0x1db3, 0x1db4, 1, 0x282), (0x1db6, 0x1db7, 1, 0x289),
  (0x1db9, 0x1dba, 1, 0x28b), (0x1dbc, 0x1dbe, 1, 0x290), (0x1e00, 0x1e94, 2, 0x1e01),
  (0x1ea0, 0x1efe, 2, 0x1ea1), (0x1f08, 0x1f0f, 1, 0x1f00), (0x1f18, 0x1f1d, 1, 0x1f10),
  (0x1f28, 0x1f2f, 1, 0x1f20), (0x1f38, 0x1f3f, 1, 0x1f30), (0x1f48, 0x1f4d, 1, 0x1f40),
  (0x1f59, 0x1f5f, 2, 0x1f51), (0x1f68, 0x1f6f, 1, 0x1f60), (0x1fb8, 0x1fb9, 1, 0x1fb0),
  (0x1fc8, 0x1fca, 2, 0x1f72), (0x1fd8, 0x1fd9, 1, 0x1fd0), (0x1fe8, 0x1fe9, 1, 0x1fe0),
  (0x1ff9, 0x1ffb, 2, 0x3cc), (0x2074, 0x2079, 1, 0x34), (0x207d, 0x207e, 1, 0x28),
  (0x2080, 0x2089, 1, 0x30), (0x208d, 0x208e, 1, 0x28), (0x2096, 0x2099, 1, 0x6b),
  (0x209b, 0x209c, 1, 0x73), (0x210a, 0x210b, 1, 0x67), (0x2113, 0x2115, 2, 0x6c),
  (0x2119, 0x211b, 1, 0x70), (0x212c, 0x212d, 1, 0x62), (0x2130, 0x2131, 1, 0x65),
  (0x2135, 0x2138, 1, 0x5d0), (0x2146, 0x2147, 1, 0x64), (0x2148, 0x2149, 1, 0x69),
  (0x216d, 0x216e, 1, 0x63), (0x217d, 0x217e, 1, 0x63), (0x2460, 0x2468, 1, 0x31),
  (0x24b6, 0x24cf, 1, 0x61), (0x24d0, 0x24e9, 1, 0x61), (0x2c00, 0x2c2f, 1, 0x2c30),
  (0x2c67, 0x2c6b, 2, 0x2c68), (0x2c7e, 0x2c7f, 1, 0x23f), (0x2c80, 0x2ce2, 2, 0x2c81),
  (0x2ceb, 0x2ced, 2, 0x2cec), (0x3039, 0x303a, 1, 0x5344), (0x3131, 0x3132, 1, 0x1100),
  (0x3133, 0x3135, 2, 0x11aa), (0x3137, 0x3139, 1, 0x1103), (0x313a, 0x313f, 1, 0x11b0),
  (0x3141, 0x3143, 1, 0x1106), (0x3145, 0x314e, 1, 0x1109), (0x314f, 0x3163, 1, 0x1161),
  (0x3165, 0x3166, 1, 0x1114), (0x3167, 0x3168, 1, 0x11c7), (0x3171, 0x3172, 1, 0x111d),
  (0x3174, 0x3175, 1, 0x1122), (0x3178, 0x317c, 1, 0x112b), (0x3182, 0x3183, 1, 0x11f1),
  (0x3184, 0x3186, 1, 0x1157), (0x3187, 0x3188, 1, 0x1184), (0x318a, 0x318b, 1, 0x1191),
  (0x3261, 0x3262, 1, 0x1102), (0x3263, 0x3265, 1, 0x1105), (0x3267, 0x3268, 1, 0x110b),
  (0x3269, 0x326d, 1, 0x110e), (0x32d4, 0x32d5, 1, 0x30aa), (0x32e4, 0x32e9, 1, 0x30ca),
  (0x32ee, 0x32f2, 1, 0x30de), (0x32f5, 0x32fa, 1, 0x30e8), (0x32fb, 0x32fe, 1, 0x30ef),
  (0xa640, 0xa66c, 2, 0xa641), (0xa680, 0xa69a, 2, 0xa681), (0xa722, 0xa72e, 2, 0xa723),
  (0xa732, 0xa76e, 2, 0xa733), (0xa779, 0xa77b, 2, 0xa77a), (0xa77e, 0xa786, 2, 0xa77f),
  (0xa790, 0xa792, 2, 0xa791), (0xa796, 0xa7a8, 2, 0xa797), (0xa7b4, 0xa7c2, 2, 0xa7b5),
  (0xa7c7, 0xa7c9, 2, 0xa7c8), (0xa7cc, 0xa7da, 2, 0xa7cd), (0xab70, 0xabbf, 1, 0x13a0),
  (0xfb22, 0xfb23, 1, 0x5d3), (0xfb24, 0xfb26, 1, 0x5db), (0xfb58, 0xfb5a, 2, 0x67e),
  (0xfb59, 0xfb5b, 2, 0x67e), (0xfb6c, 0xfb6e, 2, 0x6a4), (0xfb6d, 0xfb6f, 2, 0x6a4),
  (0xfb7d, 0xfb7e, 1, 0x686), (0xfb84, 0xfb86, 2, 0x68c), (0xfb85, 0xfb87, 2, 0x68c),
  (0xfb9f, 0xfba0, 1, 0x6ba), (0xfba5, 0xfba6, 1, 0x6c0), (0xfbaf, 0xfbb0, 1, 0x6d2),
  (0xfbd9, 0xfbdb, 2, 0x6c6), (0xfbda, 0xfbdc, 2, 0x6c6), (0xfe13, 0xfe14, 1, 0x3a),
  (0xfe17, 0xfe18, 1, 0x3016), (0xfe35, 0xfe36, 1, 0x28), (0xfe39, 0xfe3a, 1, 0x3014),
  (0xfe3b, 0xfe3c, 1, 0x3010), (0xfe3d, 0xfe3e, 1, 0x300a), (0xfe3f, 0xfe40, 1, 0x3008),
  (0xfe41, 0xfe44, 1, 0x300c), (0xfe59, 0xfe5a, 1, 0x28), (0xfe5d, 0xfe5e, 1, 0x3014),
  (0xfe61, 0xfe62, 1, 0x2a), (0xfe69, 0xfe6a, 1, 0x24), (0xfe80, 0xfe81, 1, 0x621),
  (0xfe82, 0xfe83, 1, 0x622), (0xfe84, 0xfe85, 1, 0x623), (0xfe86, 0xfe87, 1, 0x624),
  (0xfe88, 0xfe89, 1, 0x625), (0xfe8c, 0xfe8d, 1, 0x626), (0xfe8e, 0xfe8f, 1, 0x627),
  (0xfe92, 0xfe93, 1, 0x628), (0xfe94, 0xfe95, 1, 0x629), (0xfe98, 0xfe99, 1, 0x62a),
  (0xfe9c, 0xfe9d, 1, 0x62b), (0xfea0, 0xfea1, 1, 0x62c), (0xfea4, 0xfea5, 1, 0x62d),
  (0xfea8, 0xfea9, 1, 0x62e), (0xfeaa, 0xfeab, 1, 0x62f), (0xfeac, 0xfead, 1, 0x630),
  (0xfeae, 0xfeaf, 1, 0x631), (0xfeb0, 0xfeb1, 1, 0x632), (0xfeb4, 0xfeb5, 1, 0x633),
  (0xfeb8, 0xfeb9, 1, 0x634), (0xfebc, 0xfebd, 1, 0x635), (0xfec0, 0xfec1, 1, 0x636),
  (0xfec4, 0xfec5, 1, 0x637), (0xfec8, 0xfec9, 1, 0x638), (0xfecc, 0xfecd, 1, 0x639),
  (0xfed4, 0xfed5, 1, 0x641), (0xfed8, 0xfed9, 1, 0x642), (0xfedc, 0xfedd, 1, 0x643),
  (0xfee0, 0xfee1, 1, 0x644), (0xfee4, 0xfee5, 1, 0x645), (0xfee8, 0xfee9, 1, 0x646),
  (0xfeec, 0xfeed, 1, 0x647), (0xfeee, 0xfeef, 1, 0x648), (0xfef0, 0xfef1, 1, 0x649),
  (0xff01, 0xff20, 1, 0x21), (0xff21, 0xff3a, 1, 0x61), (0xff3b, 0xff5e, 1, 0x5b),
  (0xff5f, 0xff60, 1, 0x2985), (0xff62, 0xff63, 1, 0x300c), (0xff75, 0xff76, 1, 0x30aa),
  (0xff85, 0xff8a, 1, 0x30ca), (0xff8f, 0xff93, 1, 0x30de), (0xff96, 0xff9b, 1, 0x30e8),
  (0xff9e, 0xff9f, 1, 0x3099), (0xffa1, 0xffa2, 1, 0x1100), (0xffa3, 0xffa5, 2, 0x11aa),
  (0xffa7, 0xffa9, 1, 0x1103), (0xffaa, 0xffaf, 1, 0x11b0), (0xffb1, 0xffb3, 1, 0x1106),
  (0xffb5, 0xffbe, 1, 0x1109), (0xffc2, 0xffc7, 1, 0x1161), (0xffca, 0xffcf, 1, 0x1167),
  (0xffd2, 0xffd7, 1, 0x116d), (0xffda, 0xffdc, 1, 0x1173), (0xffe0, 0xffe1, 1, 0xa2),
  (0xffe9, 0xffec, 1, 0x2190), (0x10400, 0x10427, 1, 0x10428), (0x104b0, 0x104d3, 1, 0x104d8),
  (0x10570, 0x10594, 2, 0x10597), (0x10571, 0x10579, 2, 0x10598), (0x1057d, 0x10589, 2, 0x105a4),
  (0x1058d, 0x10591, 2, 0x105b4), (0x10595, 0x10595, 1, 0x105bc), (0x10781, 0x10782, 1, 0x2d0),
  (0x10787, 0x10789, 2, 0x2a3), (0x1078b, 0x1078c, 1, 0x256), (0x10799, 0x1079a, 1, 0x2aa),
  (0x1079c, 0x1079c, 1, 0x1df04), (0x1079f, 0x1079f, 1, 0x1df05), (0x107a1, 0x107a1, 1, 0x1df06),
  (0x107a3, 0x107a4, 1, 0x276), (0x107a7, 0x107a7, 1, 0x1df08), (0x107a8, 0x107a9, 1, 0x27d),
  (0x107b3, 0x107b4, 1, 0x2a1), (0x107b6, 0x107b8, 1, 0x1c0), (0x107b9, 0x107b9, 1, 0x1df0a),
  (0x107ba, 0x107ba, 1, 0x1df1e), (0x10c80, 0x10cb2, 1, 0x10cc0), (0x10d50, 0x10d65, 1, 0x10d70),
  (0x118a0, 0x118bf, 1, 0x118c0), (0x16e40, 0x16e5f, 1, 0x16e60), (0x16ea0, 0x16eb8, 1, 0x16ebb),
  (0x1ccd6, 0x1ccef, 1, 0x61), (0x1ccf0, 0x1ccf9, 1, 0x30), (0x1d400, 0x1d419, 1, 0x61),
  (0x1d41a, 0x1d433, 1, 0x61), (0x1d434, 0x1d44d, 1, 0x61), (0x1d44e, 0x1d466, 2, 0x61),
  (0x1d44f, 0x1d453, 2, 0x62), (0x1d457, 0x1d467, 2, 0x6a), (0x1d468, 0x1d481, 1, 0x61),
  (0x1d482, 0x1d49b, 1, 0x61), (0x1d49c, 0x1d49e, 2, 0x61), (0x1d4a5, 0x1d4a6, 1, 0x6a),
  (0x1d4a9, 0x1d4ac, 1, 0x6e), (0x1d4ae, 0x1d4b5, 1, 0x73), (0x1d4b6, 0x1d4b9, 1, 0x61),
  (0x1d4bb, 0x1d4cf, 2, 0x66), (0x1d4be, 0x1d4c2, 2, 0x69), (0x1d4c6, 0x1d4ce, 2, 0x71),
  (0x1d4d0, 0x1d4e9, 1, 0x61), (0x1d4ea, 0x1d503, 1, 0x61), (0x1d504, 0x1d505, 1, 0x61),
  (0x1d507, 0x1d50a, 1, 0x64), (0x1d50d, 0x1d514, 1, 0x6a), (0x1d516, 0x1d51c, 1, 0x73),
  (0x1d51e, 0x1d537, 1, 0x61), (0x1d538, 0x1d539, 1, 0x61), (0x1d53b, 0x1d53e, 1, 0x64),
  (0x1d540, 0x1d544, 1, 0x69), (0x1d54a, 0x1d550, 1, 0x73), (0x1d552, 0x1d56b, 1, 0x61),
  (0x1d56c, 0x1d585, 1, 0x61), (0x1d586, 0x1d59f, 1, 0x61), (0x1d5a0, 0x1d5b9, 1, 0x61),
  (0x1d5ba, 0x1d5d3, 1, 0x61), (0x1d5d4, 0x1d5ed, 1, 0x61), (0x1d5ee, 0x1d607, 1, 0x61),
  (0x1d608, 0x1d621, 1, 0x61), (0x1d622, 0x1d63b, 1, 0x61), (0x1d63c, 0x1d655, 1, 0x61),
  (0x1d656, 0x1d66f, 1, 0x61), (0x1d670, 0x1d689, 1, 0x61), (0x1d68a, 0x1d6a3, 1, 0x61),
  (0x1d6a8, 0x1d6b8, 1, 0x3b1), (0x1d6ba, 0x1d6c0, 1, 0x3c3), (0x1d6c2, 0x1d6d2, 1, 0x3b1),
  (0x1d6d4, 0x1d6da, 1, 0x3c3), (0x1d6e2, 0x1d6f2, 1, 0x3b1), (0x1d6f4, 0x1d6fa, 1, 0x3c3),
  (0x1d6fc, 0x1d70c, 1, 0x3b1), (0x1d70e, 0x1d714, 1, 0x3c3), (0x1d71c, 0x1d72c, 1, 0x3b1),
  (0x1d72e, 0x1d734, 1, 0x3c3), (0x1d736, 0x1d746, 1, 0x3b1), (0x1d748, 0x1d74e, 1, 0x3c3),
  (0x1d756, 0x1d766, 1, 0x3b1), (0x1d768, 0x1d76e, 1, 0x3c3), (0x1d770, 0x1d780, 1, 0x3b1),
  (0x1d782, 0x1d788, 1, 0x3c3), (0x1d790, 0x1d7a0, 1, 0x3b1), (0x1d7a2, 0x1d7a8, 1, 0x3c3),
  (0x1d7aa, 0x1d7ba, 1, 0x3b1), (0x1d7bc, 0x1d7c2, 1, 0x3c3), (0x1d7ce, 0x1d7d7, 1, 0x30),
  (0x1d7d8, 0x1d7e1, 1, 0x30), (0x1d7e2, 0x1d7eb, 1, 0x30), (0x1d7ec, 0x1d7f5, 1, 0x30),
  (0x1d7f6, 0x1d7ff, 1, 0x30), (0x1e030, 0x1e038, 1, 0x430), (0x1e039, 0x1e03b, 1, 0x43a),
  (0x1e03c, 0x1e046, 1, 0x43e), (0x1e048, 0x1e049, 1, 0x44d), (0x1e051, 0x1e059, 1, 0x430),
  (0x1e05a, 0x1e05b, 1, 0x43a), (0x1e05c, 0x1e05d, 1, 0x43e), (0x1e05f, 0x1e064, 1, 0x443),
  (0x1e065, 0x1e066, 1, 0x44a), (0x1e900, 0x1e921, 1, 0x1e922), (0x1ee00, 0x1ee01, 1, 0x627),
  (0x1ee0a, 0x1ee0d, 1, 0x643), (0x1ee15, 0x1ee16, 1, 0x62a), (0x1ee2a, 0x1ee2d, 1, 0x643),
  (0x1ee35, 0x1ee36, 1, 0x62a), (0x1ee4b, 0x1ee4d, 2, 0x644), (0x1ee6a, 0x1ee6c, 2, 0x643),
  (0x1ee75, 0x1ee76, 1, 0x62a), (0x1ee80, 0x1ee81, 1, 0x627), (0x1ee84, 0x1ee85, 1, 0x647),
  (0x1ee8b, 0x1ee8d, 1, 0x644), (0x1ee95, 0x1ee96, 1, 0x62a), (0x1eeab, 0x1eead, 1, 0x644),
  (0x1eeb5, 0x1eeb6, 1, 0x62a), (0x1f130, 0x1f149, 1, 0x61), (0x1fbf0, 0x1fbf9, 1, 0x30)]

def dropped : List (Nat × Nat) := [
  (0xad, 0xad), (0x34f, 0x34f), (0x115f, 0x1160), (0x17b4, 0x17b5), (0x180b, 0x180f),
  (0x200b, 0x200b), (0x2060, 0x2064), (0x206a, 0x206f), (0x3164, 0x3164), (0xfe00, 0xfe0f),
  (0xfeff, 0xfeff), (0xffa0, 0xffa0), (0x1bca0, 0x1bca3), (0x1d173, 0x1d17a), (0xe0100, 0xe01ef)]

def blanks : List (Nat × Nat) := [
  (0xa0, 0xa0), (0xa8, 0xa8), (0xaf, 0xaf), (0xb4, 0xb4), (0xb8, 0xb8), (0x2d8, 0x2dd),
  (0x37a, 0x37a), (0x384, 0x385), (0x1fbd, 0x1fbd), (0x1fbf, 0x1fc1), (0x1fcd, 0x1fcf),
  (0x1fdd, 0x1fdf), (0x1fed, 0x1fee), (0x1ffd, 0x1ffe), (0x2000, 0x200a), (0x2017, 0x2017),
  (0x202f, 0x202f), (0x203e, 0x203e), (0x205f, 0x205f), (0x3000, 0x3000), (0x309b, 0x309c),
  (0xfc5e, 0xfc63), (0xfdfa, 0xfdfb), (0xfe49, 0xfe4c), (0xfe70, 0xfe70), (0xfe72, 0xfe72),
  (0xfe74, 0xfe74), (0xfe76, 0xfe76), (0xfe78, 0xfe78), (0xfe7a, 0xfe7a), (0xfe7c, 0xfe7c),
  (0xfe7e, 0xfe7e), (0xffe3, 0xffe3)]

def refused : List (Nat × Nat) := [
  (0x80, 0x9f), (0x600, 0x605), (0x61c, 0x61c), (0x6dd, 0x6dd), (0x70f, 0x70f), (0x890, 0x891),
  (0x8e2, 0x8e2), (0x1680, 0x1680), (0x200e, 0x200f), (0x2024, 0x2026), (0x2028, 0x202e),
  (0x2066, 0x2069), (0x2488, 0x249b), (0x2ff0, 0x2fff), (0x31ef, 0x31ef), (0x33c2, 0x33c2),
  (0x33c7, 0x33c7), (0x33d8, 0x33d8), (0xd800, 0xf8ff), (0xfe12, 0xfe12), (0xfe19, 0xfe19),
  (0xfe30, 0xfe30), (0xfe52, 0xfe52), (0xfff9, 0xfffd), (0x110bd, 0x110bd), (0x110cd, 0x110cd),
  (0x13430, 0x1343f), (0x1f100, 0x1f100), (0xe0001, 0xe0001), (0xe0020, 0xe007f),
  (0xf0000, 0xffffd), (0x100000, 0x10fffd)]

def inRow? (n : Nat) : Option Nat :=
  (rows.find? fun (first, last, step, _) =>
    first ≤ n && n ≤ last && (n - first) % step == 0).map fun (first, _, _, image) =>
      image + (n - first)

def fold? (c : Char) : Option (List Char) :=
  let n := c.toNat
  if n < 0x80 then some [c.toLower]
  else if isIn dropped n then some []
  else if isIn blanks n || isIn refused n || isIn unassigned n then none
  else
    match inRow? n with
    | some m => some [Char.ofNat m]
    | none => some ((Spelling.spelling? n).getD [c])

def isPlain (c : Char) : Bool := fold? c == some [c]

end Playground.Url.Folding
