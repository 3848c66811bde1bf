/-!
Characters that names spell with others: ligatures, signs made of several letters, and the forms of
letters in their places within a word.
-/

namespace Playground.Url.Spelling

/-- Characters in a row, of which the first one is given, with what each is spelled with. -/
def letterRows : List (Nat × List (List Nat)) := [
  (0xaa, [[0x61]]), (0xb5, [[0x3bc]]), (0xb9, [[0x31], [0x6f]]),
  (0xbc, [[0x31, 0x2044, 0x34], [0x31, 0x2044, 0x32], [0x33, 0x2044, 0x34]]),
  (0x130, [[0x69, 0x307]]), (0x132, [[0x69, 0x6a], [0x69, 0x6a]]),
  (0x13f, [[0x6c, 0xb7], [0x6c, 0xb7]]), (0x149, [[0x2bc, 0x6e]]), (0x178, [[0xff]]),
  (0x17f, [[0x73]]), (0x181, [[0x253]]), (0x186, [[0x254], [0x188]]), (0x18b, [[0x18c]]),
  (0x18e, [[0x1dd], [0x259], [0x25b], [0x192]]), (0x193, [[0x260], [0x263]]),
  (0x196, [[0x269], [0x268], [0x199]]), (0x19c, [[0x26f], [0x272]]), (0x19f, [[0x275]]),
  (0x1a6, [[0x280], [0x1a8]]), (0x1a9, [[0x283]]), (0x1ac, [[0x1ad]]), (0x1ae, [[0x288], [0x1b0]]),
  (0x1b7, [[0x292], [0x1b9]]), (0x1bc, [[0x1bd]]),
  (0x1c4, [[0x64, 0x17e], [0x64, 0x17e], [0x64, 0x17e], [0x6c, 0x6a], [0x6c, 0x6a], [0x6c, 0x6a],
    [0x6e, 0x6a], [0x6e, 0x6a], [0x6e, 0x6a]]),
  (0x1f1, [[0x64, 0x7a], [0x64, 0x7a], [0x64, 0x7a], [0x1f5]]), (0x1f6, [[0x195], [0x1bf]]),
  (0x220, [[0x19e]]), (0x23a, [[0x2c65], [0x23c]]), (0x23d, [[0x19a], [0x2c66]]),
  (0x241, [[0x242]]), (0x243, [[0x180], [0x289], [0x28c]]), (0x2b1, [[0x266]]),
  (0x2b3, [[0x72], [0x279], [0x27b], [0x281], [0x77], [0x79]]),
  (0x2e0, [[0x263], [0x6c], [0x73], [0x78], [0x295]]), (0x345, [[0x3b9]]), (0x376, [[0x377]]),
  (0x37f, [[0x3f3]]), (0x386, [[0x3ac]]), (0x38c, [[0x3cc]]),
  (0x3cf, [[0x3d7], [0x3b2], [0x3b8], [0x3c5], [0x3cd], [0x3cb], [0x3c6], [0x3c0]]),
  (0x3f0, [[0x3ba], [0x3c1], [0x3c3]]), (0x3f4, [[0x3b8], [0x3b5]]), (0x3f7, [[0x3f8]]),
  (0x3f9, [[0x3c3], [0x3fb]]), (0x4c0, [[0x4cf]]), (0x587, [[0x565, 0x582]]),
  (0x675, [[0x627, 0x674], [0x648, 0x674], [0x6c7, 0x674], [0x64a, 0x674]]),
  (0xe33, [[0xe4d, 0xe32]]), (0xeb3, [[0xecd, 0xeb2]]), (0xedc, [[0xeab, 0xe99], [0xeab, 0xea1]]),
  (0xf0c, [[0xf0b]]), (0xf77, [[0xfb2, 0xf71, 0xf80]]), (0xf79, [[0xfb3, 0xf71, 0xf80]]),
  (0x10c7, [[0x2d27]]), (0x10cd, [[0x2d2d]]), (0x10fc, [[0x10dc]]),
  (0x1c80, [[0x432], [0x434], [0x43e]]), (0x1c85, [[0x442], [0x44a], [0x463], [0xa64b], [0x1c8a]]),
  (0x1d2c, [[0x61], [0xe6]]), (0x1d32, [[0x1dd]]), (0x1d3c, [[0x6f], [0x223], [0x70], [0x72]]),
  (0x1d42, [[0x77], [0x61]]), (0x1d46, [[0x1d02], [0x62]]), (0x1d4a, [[0x259]]), (0x1d4d, [[0x67]]),
  (0x1d4f, [[0x6b]]), (0x1d51, [[0x14b]]), (0x1d53, [[0x254]]), (0x1d56, [[0x70]]),
  (0x1d59, [[0x1d1d], [0x26f], [0x76], [0x1d25]]), (0x1d62, [[0x69], [0x72]]), (0x1d68, [[0x3c1]]),
  (0x1d78, [[0x43d]]),
  (0x1d9b, [[0x252], [0x63], [0x255], [0xf0], [0x25c], [0x66], [0x25f], [0x261], [0x265]]),
  (0x1da7, [[0x1d7b], [0x29d], [0x26d], [0x1d85], [0x29f], [0x271], [0x270]]), (0x1db2, [[0x278]]),
  (0x1db5, [[0x1ab]]), (0x1db8, [[0x1d1c]]), (0x1dbb, [[0x7a]]), (0x1dbf, [[0x3b8]]),
  (0x1e9a, [[0x61, 0x2be], [0x1e61]]), (0x1e9e, [[0xdf]]),
  (0x1f80, [[0x1f00, 0x3b9], [0x1f01, 0x3b9], [0x1f02, 0x3b9], [0x1f03, 0x3b9], [0x1f04, 0x3b9],
    [0x1f05, 0x3b9]]),
  (0x1f86, [[0x1f06, 0x3b9], [0x1f07, 0x3b9], [0x1f00, 0x3b9], [0x1f01, 0x3b9], [0x1f02, 0x3b9],
    [0x1f03, 0x3b9]]),
  (0x1f8c, [[0x1f04, 0x3b9], [0x1f05, 0x3b9], [0x1f06, 0x3b9], [0x1f07, 0x3b9], [0x1f20, 0x3b9],
    [0x1f21, 0x3b9]]),
  (0x1f92, [[0x1f22, 0x3b9], [0x1f23, 0x3b9], [0x1f24, 0x3b9], [0x1f25, 0x3b9], [0x1f26, 0x3b9],
    [0x1f27, 0x3b9]]),
  (0x1f98, [[0x1f20, 0x3b9], [0x1f21, 0x3b9], [0x1f22, 0x3b9], [0x1f23, 0x3b9], [0x1f24, 0x3b9],
    [0x1f25, 0x3b9]]),
  (0x1f9e, [[0x1f26, 0x3b9], [0x1f27, 0x3b9], [0x1f60, 0x3b9], [0x1f61, 0x3b9], [0x1f62, 0x3b9],
    [0x1f63, 0x3b9]]),
  (0x1fa4, [[0x1f64, 0x3b9], [0x1f65, 0x3b9], [0x1f66, 0x3b9], [0x1f67, 0x3b9], [0x1f60, 0x3b9],
    [0x1f61, 0x3b9]]),
  (0x1faa, [[0x1f62, 0x3b9], [0x1f63, 0x3b9], [0x1f64, 0x3b9], [0x1f65, 0x3b9], [0x1f66, 0x3b9],
    [0x1f67, 0x3b9]]), (0x1fb2, [[0x1f70, 0x3b9], [0x3b1, 0x3b9], [0x3ac, 0x3b9]]),
  (0x1fb7, [[0x1fb6, 0x3b9]]), (0x1fba, [[0x1f70], [0x3ac], [0x3b1, 0x3b9]]),
  (0x1fc2, [[0x1f74, 0x3b9], [0x3b7, 0x3b9], [0x3ae, 0x3b9]]), (0x1fc7, [[0x1fc6, 0x3b9]]),
  (0x1fc9, [[0x3ad]]), (0x1fcb, [[0x3ae], [0x3b7, 0x3b9]]), (0x1fda, [[0x1f76], [0x3af]]),
  (0x1fea, [[0x1f7a], [0x3cd], [0x1fe5]]),
  (0x1ff2, [[0x1f7c, 0x3b9], [0x3c9, 0x3b9], [0x3ce, 0x3b9]]),
  (0x1ff7, [[0x1ff6, 0x3b9], [0x1f78]]), (0x1ffa, [[0x1f7c]]), (0x1ffc, [[0x3c9, 0x3b9]])]

def signRows : List (Nat × List (List Nat)) := [
  (0x2011, [[0x2010]]), (0x2033, [[0x2032, 0x2032], [0x2032, 0x2032, 0x2032]]),
  (0x2036, [[0x2035, 0x2035], [0x2035, 0x2035, 0x2035]]), (0x203c, [[0x21, 0x21]]),
  (0x2047, [[0x3f, 0x3f], [0x3f, 0x21], [0x21, 0x3f]]),
  (0x2057, [[0x2032, 0x2032, 0x2032, 0x2032]]), (0x2070, [[0x30], [0x69]]),
  (0x207a, [[0x2b], [0x2212], [0x3d]]), (0x207f, [[0x6e]]), (0x208a, [[0x2b], [0x2212], [0x3d]]),
  (0x2090, [[0x61], [0x65], [0x6f], [0x78], [0x259], [0x68]]), (0x209a, [[0x70]]),
  (0x20a8, [[0x72, 0x73]]),
  (0x2100, [[0x61, 0x2f, 0x63], [0x61, 0x2f, 0x73], [0x63], [0xb0, 0x63]]),
  (0x2105, [[0x63, 0x2f, 0x6f], [0x63, 0x2f, 0x75], [0x25b]]), (0x2109, [[0xb0, 0x66]]),
  (0x210c, [[0x68], [0x68], [0x68], [0x127], [0x69], [0x69], [0x6c]]), (0x2116, [[0x6e, 0x6f]]),
  (0x211c, [[0x72], [0x72]]), (0x2120, [[0x73, 0x6d], [0x74, 0x65, 0x6c], [0x74, 0x6d]]),
  (0x2124, [[0x7a]]), (0x2126, [[0x3c9]]), (0x2128, [[0x7a]]), (0x212a, [[0x6b], [0xe5]]),
  (0x212f, [[0x65]]), (0x2132, [[0x214e], [0x6d], [0x6f]]), (0x2139, [[0x69]]),
  (0x213b, [[0x66, 0x61, 0x78], [0x3c0], [0x3b3], [0x3b3], [0x3c0], [0x2211]]), (0x2145, [[0x64]]),
  (0x2150, [[0x31, 0x2044, 0x37], [0x31, 0x2044, 0x39], [0x31, 0x2044, 0x31, 0x30], [0x31, 0x2044,
    0x33], [0x32, 0x2044, 0x33], [0x31, 0x2044, 0x35], [0x32, 0x2044, 0x35], [0x33, 0x2044, 0x35],
    [0x34, 0x2044, 0x35]]),
  (0x2159, [[0x31, 0x2044, 0x36], [0x35, 0x2044, 0x36], [0x31, 0x2044, 0x38], [0x33, 0x2044, 0x38],
    [0x35, 0x2044, 0x38], [0x37, 0x2044, 0x38], [0x31, 0x2044], [0x69], [0x69, 0x69], [0x69, 0x69,
    0x69], [0x69, 0x76], [0x76], [0x76, 0x69], [0x76, 0x69, 0x69]]),
  (0x2167, [[0x76, 0x69, 0x69, 0x69], [0x69, 0x78], [0x78], [0x78, 0x69], [0x78, 0x69, 0x69],
    [0x6c]]),
  (0x216f, [[0x6d], [0x69], [0x69, 0x69], [0x69, 0x69, 0x69], [0x69, 0x76], [0x76], [0x76, 0x69],
    [0x76, 0x69, 0x69], [0x76, 0x69, 0x69, 0x69], [0x69, 0x78], [0x78], [0x78, 0x69], [0x78, 0x69,
    0x69], [0x6c]]), (0x217f, [[0x6d]]), (0x2183, [[0x2184]]), (0x2189, [[0x30, 0x2044, 0x33]]),
  (0x222c, [[0x222b, 0x222b], [0x222b, 0x222b, 0x222b]]),
  (0x222f, [[0x222e, 0x222e], [0x222e, 0x222e, 0x222e]]),
  (0x2469, [[0x31, 0x30], [0x31, 0x31], [0x31, 0x32], [0x31, 0x33], [0x31, 0x34], [0x31, 0x35],
    [0x31, 0x36], [0x31, 0x37], [0x31, 0x38], [0x31, 0x39], [0x32, 0x30], [0x28, 0x31, 0x29], [0x28,
    0x32, 0x29], [0x28, 0x33, 0x29], [0x28, 0x34, 0x29], [0x28, 0x35, 0x29], [0x28, 0x36, 0x29],
    [0x28, 0x37, 0x29], [0x28, 0x38, 0x29], [0x28, 0x39, 0x29], [0x28, 0x31, 0x30, 0x29], [0x28,
    0x31, 0x31, 0x29], [0x28, 0x31, 0x32, 0x29]]),
  (0x2480, [[0x28, 0x31, 0x33, 0x29], [0x28, 0x31, 0x34, 0x29], [0x28, 0x31, 0x35, 0x29], [0x28,
    0x31, 0x36, 0x29], [0x28, 0x31, 0x37, 0x29], [0x28, 0x31, 0x38, 0x29], [0x28, 0x31, 0x39, 0x29],
    [0x28, 0x32, 0x30, 0x29]]),
  (0x249c, [[0x28, 0x61, 0x29], [0x28, 0x62, 0x29], [0x28, 0x63, 0x29], [0x28, 0x64, 0x29], [0x28,
    0x65, 0x29], [0x28, 0x66, 0x29], [0x28, 0x67, 0x29], [0x28, 0x68, 0x29], [0x28, 0x69, 0x29],
    [0x28, 0x6a, 0x29], [0x28, 0x6b, 0x29], [0x28, 0x6c, 0x29], [0x28, 0x6d, 0x29], [0x28, 0x6e,
    0x29], [0x28, 0x6f, 0x29], [0x28, 0x70, 0x29], [0x28, 0x71, 0x29], [0x28, 0x72, 0x29], [0x28,
    0x73, 0x29], [0x28, 0x74, 0x29], [0x28, 0x75, 0x29]]),
  (0x24b1, [[0x28, 0x76, 0x29], [0x28, 0x77, 0x29], [0x28, 0x78, 0x29], [0x28, 0x79, 0x29], [0x28,
    0x7a, 0x29]]), (0x24ea, [[0x30]]), (0x2a0c, [[0x222b, 0x222b, 0x222b, 0x222b]]),
  (0x2a74, [[0x3a, 0x3a, 0x3d], [0x3d, 0x3d], [0x3d, 0x3d, 0x3d]]), (0x2c60, [[0x2c61]]),
  (0x2c62, [[0x26b], [0x1d7d], [0x27d]]), (0x2c6d, [[0x251], [0x271], [0x250], [0x252]]),
  (0x2c72, [[0x2c73]]), (0x2c75, [[0x2c76]]), (0x2c7c, [[0x6a], [0x76]]), (0x2cf2, [[0x2cf3]]),
  (0x2d6f, [[0x2d61]]), (0x2e9f, [[0x6bcd]]), (0x2ef3, [[0x9f9f]]),
  (0x2f00, [[0x4e00], [0x4e28], [0x4e36], [0x4e3f], [0x4e59], [0x4e85], [0x4e8c], [0x4ea0],
    [0x4eba], [0x513f], [0x5165], [0x516b]]),
  (0x2f0c, [[0x5182], [0x5196], [0x51ab], [0x51e0], [0x51f5], [0x5200], [0x529b], [0x52f9],
    [0x5315], [0x531a], [0x5338], [0x5341]]),
  (0x2f18, [[0x535c], [0x5369], [0x5382], [0x53b6], [0x53c8], [0x53e3], [0x56d7], [0x571f],
    [0x58eb], [0x5902], [0x590a], [0x5915]]),
  (0x2f24, [[0x5927], [0x5973], [0x5b50], [0x5b80], [0x5bf8], [0x5c0f], [0x5c22], [0x5c38],
    [0x5c6e], [0x5c71], [0x5ddb], [0x5de5]]),
  (0x2f30, [[0x5df1], [0x5dfe], [0x5e72], [0x5e7a], [0x5e7f], [0x5ef4], [0x5efe], [0x5f0b],
    [0x5f13], [0x5f50], [0x5f61], [0x5f73]]),
  (0x2f3c, [[0x5fc3], [0x6208], [0x6236], [0x624b], [0x652f], [0x6534], [0x6587], [0x6597],
    [0x65a4], [0x65b9], [0x65e0], [0x65e5]]),
  (0x2f48, [[0x66f0], [0x6708], [0x6728], [0x6b20], [0x6b62], [0x6b79], [0x6bb3], [0x6bcb],
    [0x6bd4], [0x6bdb], [0x6c0f], [0x6c14]]),
  (0x2f54, [[0x6c34], [0x706b], [0x722a], [0x7236], [0x723b], [0x723f], [0x7247], [0x7259],
    [0x725b], [0x72ac], [0x7384], [0x7389]]),
  (0x2f60, [[0x74dc], [0x74e6], [0x7518], [0x751f], [0x7528], [0x7530], [0x758b], [0x7592],
    [0x7676], [0x767d], [0x76ae], [0x76bf]]),
  (0x2f6c, [[0x76ee], [0x77db], [0x77e2], [0x77f3], [0x793a], [0x79b8], [0x79be], [0x7a74],
    [0x7acb], [0x7af9], [0x7c73], [0x7cf8]]),
  (0x2f78, [[0x7f36], [0x7f51], [0x7f8a], [0x7fbd], [0x8001], [0x800c], [0x8012], [0x8033],
    [0x807f], [0x8089], [0x81e3], [0x81ea]]),
  (0x2f84, [[0x81f3], [0x81fc], [0x820c], [0x821b], [0x821f], [0x826e], [0x8272], [0x8278],
    [0x864d], [0x866b], [0x8840], [0x884c]]),
  (0x2f90, [[0x8863], [0x897e], [0x898b], [0x89d2], [0x8a00], [0x8c37], [0x8c46], [0x8c55],
    [0x8c78], [0x8c9d], [0x8d64], [0x8d70]]),
  (0x2f9c, [[0x8db3], [0x8eab], [0x8eca], [0x8f9b], [0x8fb0], [0x8fb5], [0x9091], [0x9149],
    [0x91c6], [0x91cc], [0x91d1], [0x9577]]),
  (0x2fa8, [[0x9580], [0x961c], [0x96b6], [0x96b9], [0x96e8], [0x9751], [0x975e], [0x9762],
    [0x9769], [0x97cb], [0x97ed], [0x97f3]]),
  (0x2fb4, [[0x9801], [0x98a8], [0x98db], [0x98df], [0x9996], [0x9999], [0x99ac], [0x9aa8],
    [0x9ad8], [0x9adf], [0x9b25], [0x9b2f]]),
  (0x2fc0, [[0x9b32], [0x9b3c], [0x9b5a], [0x9ce5], [0x9e75], [0x9e7f], [0x9ea5], [0x9ebb],
    [0x9ec3], [0x9ecd], [0x9ed1], [0x9ef9]]),
  (0x2fcc, [[0x9efd], [0x9f0e], [0x9f13], [0x9f20], [0x9f3b], [0x9f4a], [0x9f52], [0x9f8d],
    [0x9f9c], [0x9fa0]])]

def squareRows : List (Nat × List (List Nat)) := [
  (0x3002, [[0x2e]]), (0x3036, [[0x3012]]), (0x3038, [[0x5341]]), (0x309f, [[0x3088, 0x308a]]),
  (0x30ff, [[0x30b3, 0x30c8]]), (0x3134, [[0x1102]]), (0x3136, [[0x11ad]]), (0x3140, [[0x111a]]),
  (0x3144, [[0x1121]]),
  (0x3169, [[0x11cc], [0x11ce], [0x11d3], [0x11d7], [0x11d9], [0x111c], [0x11dd], [0x11df]]),
  (0x3173, [[0x1120]]), (0x3176, [[0x1127], [0x1129]]),
  (0x317d, [[0x1132], [0x1136], [0x1140], [0x1147], [0x114c]]), (0x3189, [[0x1188]]),
  (0x318c, [[0x1194], [0x119e], [0x11a1]]),
  (0x3192, [[0x4e00], [0x4e8c], [0x4e09], [0x56db], [0x4e0a], [0x4e2d], [0x4e0b], [0x7532],
    [0x4e59], [0x4e19], [0x4e01], [0x5929]]), (0x319e, [[0x5730], [0x4eba]]),
  (0x3200, [[0x28, 0x1100, 0x29], [0x28, 0x1102, 0x29], [0x28, 0x1103, 0x29], [0x28, 0x1105, 0x29],
    [0x28, 0x1106, 0x29], [0x28, 0x1107, 0x29], [0x28, 0x1109, 0x29], [0x28, 0x110b, 0x29], [0x28,
    0x110c, 0x29]]),
  (0x3209, [[0x28, 0x110e, 0x29], [0x28, 0x110f, 0x29], [0x28, 0x1110, 0x29], [0x28, 0x1111, 0x29],
    [0x28, 0x1112, 0x29], [0x28, 0xac00, 0x29], [0x28, 0xb098, 0x29], [0x28, 0xb2e4, 0x29], [0x28,
    0xb77c, 0x29]]),
  (0x3212, [[0x28, 0xb9c8, 0x29], [0x28, 0xbc14, 0x29], [0x28, 0xc0ac, 0x29], [0x28, 0xc544, 0x29],
    [0x28, 0xc790, 0x29], [0x28, 0xcc28, 0x29], [0x28, 0xce74, 0x29], [0x28, 0xd0c0, 0x29], [0x28,
    0xd30c, 0x29]]),
  (0x321b, [[0x28, 0xd558, 0x29], [0x28, 0xc8fc, 0x29], [0x28, 0xc624, 0xc804, 0x29], [0x28, 0xc624,
    0xd6c4, 0x29]]),
  (0x3220, [[0x28, 0x4e00, 0x29], [0x28, 0x4e8c, 0x29], [0x28, 0x4e09, 0x29], [0x28, 0x56db, 0x29],
    [0x28, 0x4e94, 0x29], [0x28, 0x516d, 0x29], [0x28, 0x4e03, 0x29], [0x28, 0x516b, 0x29], [0x28,
    0x4e5d, 0x29]]),
  (0x3229, [[0x28, 0x5341, 0x29], [0x28, 0x6708, 0x29], [0x28, 0x706b, 0x29], [0x28, 0x6c34, 0x29],
    [0x28, 0x6728, 0x29], [0x28, 0x91d1, 0x29], [0x28, 0x571f, 0x29], [0x28, 0x65e5, 0x29], [0x28,
    0x682a, 0x29]]),
  (0x3232, [[0x28, 0x6709, 0x29], [0x28, 0x793e, 0x29], [0x28, 0x540d, 0x29], [0x28, 0x7279, 0x29],
    [0x28, 0x8ca1, 0x29], [0x28, 0x795d, 0x29], [0x28, 0x52b4, 0x29], [0x28, 0x4ee3, 0x29], [0x28,
    0x547c, 0x29]]),
  (0x323b, [[0x28, 0x5b66, 0x29], [0x28, 0x76e3, 0x29], [0x28, 0x4f01, 0x29], [0x28, 0x8cc7, 0x29],
    [0x28, 0x5354, 0x29], [0x28, 0x796d, 0x29], [0x28, 0x4f11, 0x29], [0x28, 0x81ea, 0x29], [0x28,
    0x81f3, 0x29]]), (0x3244, [[0x554f], [0x5e7c], [0x6587], [0x7b8f]]),
  (0x3250, [[0x70, 0x74, 0x65], [0x32, 0x31], [0x32, 0x32], [0x32, 0x33], [0x32, 0x34], [0x32,
    0x35], [0x32, 0x36], [0x32, 0x37], [0x32, 0x38], [0x32, 0x39], [0x33, 0x30], [0x33, 0x31],
    [0x33, 0x32], [0x33, 0x33], [0x33, 0x34], [0x33, 0x35], [0x1100]]), (0x3266, [[0x1109]]),
  (0x326e, [[0xac00], [0xb098], [0xb2e4], [0xb77c], [0xb9c8], [0xbc14], [0xc0ac], [0xc544],
    [0xc790], [0xcc28], [0xce74], [0xd0c0]]),
  (0x327a, [[0xd30c], [0xd558], [0xcc38, 0xace0], [0xc8fc, 0xc758], [0xc6b0]]),
  (0x3280, [[0x4e00], [0x4e8c], [0x4e09], [0x56db], [0x4e94], [0x516d], [0x4e03], [0x516b],
    [0x4e5d], [0x5341], [0x6708], [0x706b]]),
  (0x328c, [[0x6c34], [0x6728], [0x91d1], [0x571f], [0x65e5], [0x682a], [0x6709], [0x793e],
    [0x540d], [0x7279], [0x8ca1], [0x795d]]),
  (0x3298, [[0x52b4], [0x79d8], [0x7537], [0x5973], [0x9069], [0x512a], [0x5370], [0x6ce8],
    [0x9805], [0x4f11], [0x5199], [0x6b63]]),
  (0x32a4, [[0x4e0a], [0x4e2d], [0x4e0b], [0x5de6], [0x53f3], [0x533b], [0x5b97], [0x5b66],
    [0x76e3], [0x4f01], [0x8cc7], [0x5354]]),
  (0x32b0, [[0x591c], [0x33, 0x36], [0x33, 0x37], [0x33, 0x38], [0x33, 0x39], [0x34, 0x30], [0x34,
    0x31], [0x34, 0x32], [0x34, 0x33], [0x34, 0x34], [0x34, 0x35], [0x34, 0x36], [0x34, 0x37],
    [0x34, 0x38], [0x34, 0x39], [0x35, 0x30], [0x31, 0x6708], [0x32, 0x6708], [0x33, 0x6708], [0x34,
    0x6708]]),
  (0x32c4, [[0x35, 0x6708], [0x36, 0x6708], [0x37, 0x6708], [0x38, 0x6708], [0x39, 0x6708], [0x31,
    0x30, 0x6708], [0x31, 0x31, 0x6708], [0x31, 0x32, 0x6708], [0x68, 0x67], [0x65, 0x72, 0x67],
    [0x65, 0x76], [0x6c, 0x74, 0x64]]), (0x32d0, [[0x30a2], [0x30a4], [0x30a6], [0x30a8]]),
  (0x32d6, [[0x30ad], [0x30af], [0x30b1], [0x30b3], [0x30b5], [0x30b7], [0x30b9], [0x30bb],
    [0x30bd], [0x30bf], [0x30c1], [0x30c4]]), (0x32e2, [[0x30c6], [0x30c8]]),
  (0x32ea, [[0x30d2], [0x30d5], [0x30d8], [0x30db]]), (0x32f3, [[0x30e4], [0x30e6]]),
  (0x32ff, [[0x4ee4, 0x548c], [0x30a2, 0x30d1, 0x30fc, 0x30c8], [0x30a2, 0x30eb, 0x30d5, 0x30a1]]),
  (0x3302, [[0x30a2, 0x30f3, 0x30da, 0x30a2], [0x30a2, 0x30fc, 0x30eb], [0x30a4, 0x30cb, 0x30f3,
    0x30b0]]),
  (0x3305, [[0x30a4, 0x30f3, 0x30c1], [0x30a6, 0x30a9, 0x30f3], [0x30a8, 0x30b9, 0x30af, 0x30fc,
    0x30c9]]),
  (0x3308, [[0x30a8, 0x30fc, 0x30ab, 0x30fc], [0x30aa, 0x30f3, 0x30b9], [0x30aa, 0x30fc, 0x30e0],
    [0x30ab, 0x30a4, 0x30ea]]),
  (0x330c, [[0x30ab, 0x30e9, 0x30c3, 0x30c8], [0x30ab, 0x30ed, 0x30ea, 0x30fc], [0x30ac, 0x30ed,
    0x30f3]]),
  (0x330f, [[0x30ac, 0x30f3, 0x30de], [0x30ae, 0x30ac], [0x30ae, 0x30cb, 0x30fc], [0x30ad, 0x30e5,
    0x30ea, 0x30fc]]),
  (0x3313, [[0x30ae, 0x30eb, 0x30c0, 0x30fc], [0x30ad, 0x30ed], [0x30ad, 0x30ed, 0x30b0, 0x30e9,
    0x30e0]]),
  (0x3316, [[0x30ad, 0x30ed, 0x30e1, 0x30fc, 0x30c8, 0x30eb], [0x30ad, 0x30ed, 0x30ef, 0x30c3,
    0x30c8]]),
  (0x3318, [[0x30b0, 0x30e9, 0x30e0], [0x30b0, 0x30e9, 0x30e0, 0x30c8, 0x30f3], [0x30af, 0x30eb,
    0x30bc, 0x30a4, 0x30ed]]),
  (0x331b, [[0x30af, 0x30ed, 0x30fc, 0x30cd], [0x30b1, 0x30fc, 0x30b9], [0x30b3, 0x30eb, 0x30ca],
    [0x30b3, 0x30fc, 0x30dd]]),
  (0x331f, [[0x30b5, 0x30a4, 0x30af, 0x30eb], [0x30b5, 0x30f3, 0x30c1, 0x30fc, 0x30e0], [0x30b7,
    0x30ea, 0x30f3, 0x30b0]]),
  (0x3322, [[0x30bb, 0x30f3, 0x30c1], [0x30bb, 0x30f3, 0x30c8], [0x30c0, 0x30fc, 0x30b9], [0x30c7,
    0x30b7], [0x30c9, 0x30eb]]),
  (0x3327, [[0x30c8, 0x30f3], [0x30ca, 0x30ce], [0x30ce, 0x30c3, 0x30c8], [0x30cf, 0x30a4,
    0x30c4]]),
  (0x332b, [[0x30d1, 0x30fc, 0x30bb, 0x30f3, 0x30c8], [0x30d1, 0x30fc, 0x30c4], [0x30d0, 0x30fc,
    0x30ec, 0x30eb]]),
  (0x332e, [[0x30d4, 0x30a2, 0x30b9, 0x30c8, 0x30eb], [0x30d4, 0x30af, 0x30eb], [0x30d4, 0x30b3],
    [0x30d3, 0x30eb]]),
  (0x3332, [[0x30d5, 0x30a1, 0x30e9, 0x30c3, 0x30c9], [0x30d5, 0x30a3, 0x30fc, 0x30c8]]),
  (0x3334, [[0x30d6, 0x30c3, 0x30b7, 0x30a7, 0x30eb], [0x30d5, 0x30e9, 0x30f3], [0x30d8, 0x30af,
    0x30bf, 0x30fc, 0x30eb]]),
  (0x3337, [[0x30da, 0x30bd], [0x30da, 0x30cb, 0x30d2], [0x30d8, 0x30eb, 0x30c4], [0x30da, 0x30f3,
    0x30b9]]),
  (0x333b, [[0x30da, 0x30fc, 0x30b8], [0x30d9, 0x30fc, 0x30bf], [0x30dd, 0x30a4, 0x30f3, 0x30c8],
    [0x30dc, 0x30eb, 0x30c8]]),
  (0x333f, [[0x30db, 0x30f3], [0x30dd, 0x30f3, 0x30c9], [0x30db, 0x30fc, 0x30eb], [0x30db, 0x30fc,
    0x30f3]]),
  (0x3343, [[0x30de, 0x30a4, 0x30af, 0x30ed], [0x30de, 0x30a4, 0x30eb], [0x30de, 0x30c3, 0x30cf],
    [0x30de, 0x30eb, 0x30af]]),
  (0x3347, [[0x30de, 0x30f3, 0x30b7, 0x30e7, 0x30f3], [0x30df, 0x30af, 0x30ed, 0x30f3], [0x30df,
    0x30ea]]),
  (0x334a, [[0x30df, 0x30ea, 0x30d0, 0x30fc, 0x30eb], [0x30e1, 0x30ac], [0x30e1, 0x30ac, 0x30c8,
    0x30f3]]),
  (0x334d, [[0x30e1, 0x30fc, 0x30c8, 0x30eb], [0x30e4, 0x30fc, 0x30c9], [0x30e4, 0x30fc, 0x30eb],
    [0x30e6, 0x30a2, 0x30f3]]),
  (0x3351, [[0x30ea, 0x30c3, 0x30c8, 0x30eb], [0x30ea, 0x30e9], [0x30eb, 0x30d4, 0x30fc], [0x30eb,
    0x30fc, 0x30d6, 0x30eb]]),
  (0x3355, [[0x30ec, 0x30e0], [0x30ec, 0x30f3, 0x30c8, 0x30b2, 0x30f3], [0x30ef, 0x30c3, 0x30c8],
    [0x30, 0x70b9], [0x31, 0x70b9]]),
  (0x335a, [[0x32, 0x70b9], [0x33, 0x70b9], [0x34, 0x70b9], [0x35, 0x70b9], [0x36, 0x70b9], [0x37,
    0x70b9], [0x38, 0x70b9], [0x39, 0x70b9], [0x31, 0x30, 0x70b9], [0x31, 0x31, 0x70b9]]),
  (0x3364, [[0x31, 0x32, 0x70b9], [0x31, 0x33, 0x70b9], [0x31, 0x34, 0x70b9], [0x31, 0x35, 0x70b9],
    [0x31, 0x36, 0x70b9], [0x31, 0x37, 0x70b9], [0x31, 0x38, 0x70b9], [0x31, 0x39, 0x70b9], [0x32,
    0x30, 0x70b9]]),
  (0x336d, [[0x32, 0x31, 0x70b9], [0x32, 0x32, 0x70b9], [0x32, 0x33, 0x70b9], [0x32, 0x34, 0x70b9],
    [0x68, 0x70, 0x61], [0x64, 0x61], [0x61, 0x75], [0x62, 0x61, 0x72], [0x6f, 0x76], [0x70, 0x63],
    [0x64, 0x6d], [0x64, 0x6d, 0x32], [0x64, 0x6d, 0x33], [0x69, 0x75], [0x5e73, 0x6210]]),
  (0x337c, [[0x662d, 0x548c], [0x5927, 0x6b63], [0x660e, 0x6cbb], [0x682a, 0x5f0f, 0x4f1a, 0x793e],
    [0x70, 0x61], [0x6e, 0x61], [0x3bc, 0x61], [0x6d, 0x61], [0x6b, 0x61]]),
  (0x3385, [[0x6b, 0x62], [0x6d, 0x62], [0x67, 0x62], [0x63, 0x61, 0x6c], [0x6b, 0x63, 0x61, 0x6c],
    [0x70, 0x66], [0x6e, 0x66], [0x3bc, 0x66], [0x3bc, 0x67], [0x6d, 0x67], [0x6b, 0x67], [0x68,
    0x7a], [0x6b, 0x68, 0x7a], [0x6d, 0x68, 0x7a], [0x67, 0x68, 0x7a], [0x74, 0x68, 0x7a], [0x3bc,
    0x6c], [0x6d, 0x6c], [0x64, 0x6c], [0x6b, 0x6c], [0x66, 0x6d]]),
  (0x339a, [[0x6e, 0x6d], [0x3bc, 0x6d], [0x6d, 0x6d], [0x63, 0x6d], [0x6b, 0x6d], [0x6d, 0x6d,
    0x32], [0x63, 0x6d, 0x32], [0x6d, 0x32], [0x6b, 0x6d, 0x32], [0x6d, 0x6d, 0x33], [0x63, 0x6d,
    0x33], [0x6d, 0x33], [0x6b, 0x6d, 0x33], [0x6d, 0x2215, 0x73], [0x6d, 0x2215, 0x73, 0x32],
    [0x70, 0x61], [0x6b, 0x70, 0x61], [0x6d, 0x70, 0x61], [0x67, 0x70, 0x61]]),
  (0x33ad, [[0x72, 0x61, 0x64], [0x72, 0x61, 0x64, 0x2215, 0x73], [0x72, 0x61, 0x64, 0x2215, 0x73,
    0x32], [0x70, 0x73], [0x6e, 0x73], [0x3bc, 0x73], [0x6d, 0x73], [0x70, 0x76], [0x6e, 0x76],
    [0x3bc, 0x76], [0x6d, 0x76], [0x6b, 0x76], [0x6d, 0x76], [0x70, 0x77], [0x6e, 0x77], [0x3bc,
    0x77], [0x6d, 0x77]]), (0x33be, [[0x6b, 0x77], [0x6d, 0x77], [0x6b, 0x3c9], [0x6d, 0x3c9]]),
  (0x33c3, [[0x62, 0x71], [0x63, 0x63], [0x63, 0x64], [0x63, 0x2215, 0x6b, 0x67]]),
  (0x33c8, [[0x64, 0x62], [0x67, 0x79], [0x68, 0x61], [0x68, 0x70], [0x69, 0x6e], [0x6b, 0x6b],
    [0x6b, 0x6d], [0x6b, 0x74], [0x6c, 0x6d], [0x6c, 0x6e], [0x6c, 0x6f, 0x67], [0x6c, 0x78], [0x6d,
    0x62], [0x6d, 0x69, 0x6c], [0x6d, 0x6f, 0x6c], [0x70, 0x68]]),
  (0x33d9, [[0x70, 0x70, 0x6d], [0x70, 0x72], [0x73, 0x72], [0x73, 0x76], [0x77, 0x62], [0x76,
    0x2215, 0x6d], [0x61, 0x2215, 0x6d], [0x31, 0x65e5], [0x32, 0x65e5], [0x33, 0x65e5], [0x34,
    0x65e5], [0x35, 0x65e5], [0x36, 0x65e5]]),
  (0x33e6, [[0x37, 0x65e5], [0x38, 0x65e5], [0x39, 0x65e5], [0x31, 0x30, 0x65e5], [0x31, 0x31,
    0x65e5], [0x31, 0x32, 0x65e5], [0x31, 0x33, 0x65e5], [0x31, 0x34, 0x65e5], [0x31, 0x35,
    0x65e5]]),
  (0x33ef, [[0x31, 0x36, 0x65e5], [0x31, 0x37, 0x65e5], [0x31, 0x38, 0x65e5], [0x31, 0x39, 0x65e5],
    [0x32, 0x30, 0x65e5], [0x32, 0x31, 0x65e5], [0x32, 0x32, 0x65e5], [0x32, 0x33, 0x65e5], [0x32,
    0x34, 0x65e5]]),
  (0x33f8, [[0x32, 0x35, 0x65e5], [0x32, 0x36, 0x65e5], [0x32, 0x37, 0x65e5], [0x32, 0x38, 0x65e5],
    [0x32, 0x39, 0x65e5], [0x33, 0x30, 0x65e5], [0x33, 0x31, 0x65e5], [0x67, 0x61, 0x6c]])]

def formRows : List (Nat × List (List Nat)) := [
  (0xa69c, [[0x44a], [0x44c]]), (0xa770, [[0xa76f]]), (0xa77d, [[0x1d79]]), (0xa78b, [[0xa78c]]),
  (0xa78d, [[0x265]]), (0xa7aa, [[0x266], [0x25c], [0x261], [0x26c], [0x26a]]),
  (0xa7b0, [[0x29e], [0x287], [0x29d], [0xab53]]), (0xa7c4, [[0xa794], [0x282], [0x1d8e]]),
  (0xa7cb, [[0x264]]), (0xa7dc, [[0x19b]]), (0xa7f1, [[0x73], [0x63], [0x66], [0x71], [0xa7f6]]),
  (0xa7f8, [[0x127], [0x153]]), (0xab5c, [[0xa727], [0xab37], [0x26b], [0xab52]]),
  (0xab69, [[0x28d]]),
  (0xfb00, [[0x66, 0x66], [0x66, 0x69], [0x66, 0x6c], [0x66, 0x66, 0x69], [0x66, 0x66, 0x6c], [0x73,
    0x74], [0x73, 0x74]]),
  (0xfb13, [[0x574, 0x576], [0x574, 0x565], [0x574, 0x56b], [0x57e, 0x576], [0x574, 0x56d]]),
  (0xfb20, [[0x5e2], [0x5d0]]), (0xfb27, [[0x5e8], [0x5ea], [0x2b]]),
  (0xfb4f, [[0x5d0, 0x5dc], [0x671], [0x671], [0x67b], [0x67b], [0x67b], [0x67b], [0x67e],
    [0x67e]]),
  (0xfb5c, [[0x680], [0x680], [0x67a], [0x67a], [0x67a], [0x67a], [0x67f], [0x67f], [0x67f],
    [0x67f], [0x679], [0x679]]), (0xfb68, [[0x679], [0x679], [0x6a4], [0x6a4]]),
  (0xfb70, [[0x6a6], [0x6a6], [0x684], [0x684], [0x684], [0x684], [0x683], [0x683], [0x683],
    [0x683], [0x686], [0x686]]), (0xfb7c, [[0x686]]),
  (0xfb7f, [[0x687], [0x687], [0x687], [0x68d], [0x68d]]),
  (0xfb88, [[0x688], [0x688], [0x698], [0x698], [0x691], [0x691], [0x6a9], [0x6a9], [0x6a9],
    [0x6a9], [0x6af], [0x6af]]),
  (0xfb94, [[0x6af], [0x6af], [0x6b3], [0x6b3], [0x6b3], [0x6b3], [0x6b1], [0x6b1], [0x6b1],
    [0x6b1], [0x6ba]]), (0xfba1, [[0x6bb], [0x6bb], [0x6bb], [0x6c0]]),
  (0xfba7, [[0x6c1], [0x6c1], [0x6c1], [0x6be], [0x6be], [0x6be], [0x6be], [0x6d2]]),
  (0xfbb1, [[0x6d3]]), (0xfbd3, [[0x6ad], [0x6ad], [0x6ad], [0x6ad], [0x6c7], [0x6c7]]),
  (0xfbdd, [[0x6c7, 0x674], [0x6cb], [0x6cb], [0x6c5], [0x6c5], [0x6c9], [0x6c9], [0x6d0], [0x6d0],
    [0x6d0], [0x6d0]]),
  (0xfbe8, [[0x649], [0x649], [0x626, 0x627], [0x626, 0x627], [0x626, 0x6d5], [0x626, 0x6d5],
    [0x626, 0x648]]),
  (0xfbef, [[0x626, 0x648], [0x626, 0x6c7], [0x626, 0x6c7], [0x626, 0x6c6], [0x626, 0x6c6], [0x626,
    0x6c8]]),
  (0xfbf5, [[0x626, 0x6c8], [0x626, 0x6d0], [0x626, 0x6d0], [0x626, 0x6d0], [0x626, 0x649], [0x626,
    0x649]]),
  (0xfbfb, [[0x626, 0x649], [0x6cc], [0x6cc], [0x6cc], [0x6cc], [0x626, 0x62c], [0x626, 0x62d],
    [0x626, 0x645]]),
  (0xfc03, [[0x626, 0x649], [0x626, 0x64a], [0x628, 0x62c], [0x628, 0x62d], [0x628, 0x62e], [0x628,
    0x645]]),
  (0xfc09, [[0x628, 0x649], [0x628, 0x64a], [0x62a, 0x62c], [0x62a, 0x62d], [0x62a, 0x62e], [0x62a,
    0x645]]),
  (0xfc0f, [[0x62a, 0x649], [0x62a, 0x64a], [0x62b, 0x62c], [0x62b, 0x645], [0x62b, 0x649], [0x62b,
    0x64a]]),
  (0xfc15, [[0x62c, 0x62d], [0x62c, 0x645], [0x62d, 0x62c], [0x62d, 0x645], [0x62e, 0x62c], [0x62e,
    0x62d]]),
  (0xfc1b, [[0x62e, 0x645], [0x633, 0x62c], [0x633, 0x62d], [0x633, 0x62e], [0x633, 0x645], [0x635,
    0x62d]]),
  (0xfc21, [[0x635, 0x645], [0x636, 0x62c], [0x636, 0x62d], [0x636, 0x62e], [0x636, 0x645], [0x637,
    0x62d]]),
  (0xfc27, [[0x637, 0x645], [0x638, 0x645], [0x639, 0x62c], [0x639, 0x645], [0x63a, 0x62c], [0x63a,
    0x645]]),
  (0xfc2d, [[0x641, 0x62c], [0x641, 0x62d], [0x641, 0x62e], [0x641, 0x645], [0x641, 0x649], [0x641,
    0x64a]]),
  (0xfc33, [[0x642, 0x62d], [0x642, 0x645], [0x642, 0x649], [0x642, 0x64a], [0x643, 0x627], [0x643,
    0x62c]]),
  (0xfc39, [[0x643, 0x62d], [0x643, 0x62e], [0x643, 0x644], [0x643, 0x645], [0x643, 0x649], [0x643,
    0x64a]]),
  (0xfc3f, [[0x644, 0x62c], [0x644, 0x62d], [0x644, 0x62e], [0x644, 0x645], [0x644, 0x649], [0x644,
    0x64a]]),
  (0xfc45, [[0x645, 0x62c], [0x645, 0x62d], [0x645, 0x62e], [0x645, 0x645], [0x645, 0x649], [0x645,
    0x64a]]),
  (0xfc4b, [[0x646, 0x62c], [0x646, 0x62d], [0x646, 0x62e], [0x646, 0x645], [0x646, 0x649], [0x646,
    0x64a]]),
  (0xfc51, [[0x647, 0x62c], [0x647, 0x645], [0x647, 0x649], [0x647, 0x64a], [0x64a, 0x62c], [0x64a,
    0x62d]]),
  (0xfc57, [[0x64a, 0x62e], [0x64a, 0x645], [0x64a, 0x649], [0x64a, 0x64a], [0x630, 0x670], [0x631,
    0x670]]), (0xfc5d, [[0x649, 0x670]]),
  (0xfc64, [[0x626, 0x631], [0x626, 0x632], [0x626, 0x645], [0x626, 0x646], [0x626, 0x649], [0x626,
    0x64a]]),
  (0xfc6a, [[0x628, 0x631], [0x628, 0x632], [0x628, 0x645], [0x628, 0x646], [0x628, 0x649], [0x628,
    0x64a]]),
  (0xfc70, [[0x62a, 0x631], [0x62a, 0x632], [0x62a, 0x645], [0x62a, 0x646], [0x62a, 0x649], [0x62a,
    0x64a]]),
  (0xfc76, [[0x62b, 0x631], [0x62b, 0x632], [0x62b, 0x645], [0x62b, 0x646], [0x62b, 0x649], [0x62b,
    0x64a]]),
  (0xfc7c, [[0x641, 0x649], [0x641, 0x64a], [0x642, 0x649], [0x642, 0x64a], [0x643, 0x627], [0x643,
    0x644]]),
  (0xfc82, [[0x643, 0x645], [0x643, 0x649], [0x643, 0x64a], [0x644, 0x645], [0x644, 0x649], [0x644,
    0x64a]]),
  (0xfc88, [[0x645, 0x627], [0x645, 0x645], [0x646, 0x631], [0x646, 0x632], [0x646, 0x645], [0x646,
    0x646]]),
  (0xfc8e, [[0x646, 0x649], [0x646, 0x64a], [0x649, 0x670], [0x64a, 0x631], [0x64a, 0x632], [0x64a,
    0x645]]),
  (0xfc94, [[0x64a, 0x646], [0x64a, 0x649], [0x64a, 0x64a], [0x626, 0x62c], [0x626, 0x62d], [0x626,
    0x62e]]),
  (0xfc9a, [[0x626, 0x645], [0x626, 0x647], [0x628, 0x62c], [0x628, 0x62d], [0x628, 0x62e], [0x628,
    0x645]]),
  (0xfca0, [[0x628, 0x647], [0x62a, 0x62c], [0x62a, 0x62d], [0x62a, 0x62e], [0x62a, 0x645], [0x62a,
    0x647]]),
  (0xfca6, [[0x62b, 0x645], [0x62c, 0x62d], [0x62c, 0x645], [0x62d, 0x62c], [0x62d, 0x645], [0x62e,
    0x62c]]),
  (0xfcac, [[0x62e, 0x645], [0x633, 0x62c], [0x633, 0x62d], [0x633, 0x62e], [0x633, 0x645], [0x635,
    0x62d]]),
  (0xfcb2, [[0x635, 0x62e], [0x635, 0x645], [0x636, 0x62c], [0x636, 0x62d], [0x636, 0x62e], [0x636,
    0x645]]),
  (0xfcb8, [[0x637, 0x62d], [0x638, 0x645], [0x639, 0x62c], [0x639, 0x645], [0x63a, 0x62c], [0x63a,
    0x645]]),
  (0xfcbe, [[0x641, 0x62c], [0x641, 0x62d], [0x641, 0x62e], [0x641, 0x645], [0x642, 0x62d], [0x642,
    0x645]]),
  (0xfcc4, [[0x643, 0x62c], [0x643, 0x62d], [0x643, 0x62e], [0x643, 0x644], [0x643, 0x645], [0x644,
    0x62c]]),
  (0xfcca, [[0x644, 0x62d], [0x644, 0x62e], [0x644, 0x645], [0x644, 0x647], [0x645, 0x62c], [0x645,
    0x62d]]),
  (0xfcd0, [[0x645, 0x62e], [0x645, 0x645], [0x646, 0x62c], [0x646, 0x62d], [0x646, 0x62e], [0x646,
    0x645]]),
  (0xfcd6, [[0x646, 0x647], [0x647, 0x62c], [0x647, 0x645], [0x647, 0x670], [0x64a, 0x62c], [0x64a,
    0x62d]]),
  (0xfcdc, [[0x64a, 0x62e], [0x64a, 0x645], [0x64a, 0x647], [0x626, 0x645], [0x626, 0x647], [0x628,
    0x645]]),
  (0xfce2, [[0x628, 0x647], [0x62a, 0x645], [0x62a, 0x647], [0x62b, 0x645], [0x62b, 0x647], [0x633,
    0x645]]),
  (0xfce8, [[0x633, 0x647], [0x634, 0x645], [0x634, 0x647], [0x643, 0x644], [0x643, 0x645], [0x644,
    0x645]]),
  (0xfcee, [[0x646, 0x645], [0x646, 0x647], [0x64a, 0x645], [0x64a, 0x647], [0x640, 0x64e, 0x651]]),
  (0xfcf3, [[0x640, 0x64f, 0x651], [0x640, 0x650, 0x651], [0x637, 0x649], [0x637, 0x64a], [0x639,
    0x649]]),
  (0xfcf8, [[0x639, 0x64a], [0x63a, 0x649], [0x63a, 0x64a], [0x633, 0x649], [0x633, 0x64a], [0x634,
    0x649]]),
  (0xfcfe, [[0x634, 0x64a], [0x62d, 0x649], [0x62d, 0x64a], [0x62c, 0x649], [0x62c, 0x64a], [0x62e,
    0x649]]),
  (0xfd04, [[0x62e, 0x64a], [0x635, 0x649], [0x635, 0x64a], [0x636, 0x649], [0x636, 0x64a], [0x634,
    0x62c]]),
  (0xfd0a, [[0x634, 0x62d], [0x634, 0x62e], [0x634, 0x645], [0x634, 0x631], [0x633, 0x631], [0x635,
    0x631]]),
  (0xfd10, [[0x636, 0x631], [0x637, 0x649], [0x637, 0x64a], [0x639, 0x649], [0x639, 0x64a], [0x63a,
    0x649]]),
  (0xfd16, [[0x63a, 0x64a], [0x633, 0x649], [0x633, 0x64a], [0x634, 0x649], [0x634, 0x64a], [0x62d,
    0x649]]),
  (0xfd1c, [[0x62d, 0x64a], [0x62c, 0x649], [0x62c, 0x64a], [0x62e, 0x649], [0x62e, 0x64a], [0x635,
    0x649]]),
  (0xfd22, [[0x635, 0x64a], [0x636, 0x649], [0x636, 0x64a], [0x634, 0x62c], [0x634, 0x62d], [0x634,
    0x62e]]),
  (0xfd28, [[0x634, 0x645], [0x634, 0x631], [0x633, 0x631], [0x635, 0x631], [0x636, 0x631], [0x634,
    0x62c]]),
  (0xfd2e, [[0x634, 0x62d], [0x634, 0x62e], [0x634, 0x645], [0x633, 0x647], [0x634, 0x647], [0x637,
    0x645]]),
  (0xfd34, [[0x633, 0x62c], [0x633, 0x62d], [0x633, 0x62e], [0x634, 0x62c], [0x634, 0x62d], [0x634,
    0x62e]]), (0xfd3a, [[0x637, 0x645], [0x638, 0x645], [0x627, 0x64b], [0x627, 0x64b]]),
  (0xfd50, [[0x62a, 0x62c, 0x645], [0x62a, 0x62d, 0x62c], [0x62a, 0x62d, 0x62c], [0x62a, 0x62d,
    0x645]]),
  (0xfd54, [[0x62a, 0x62e, 0x645], [0x62a, 0x645, 0x62c], [0x62a, 0x645, 0x62d], [0x62a, 0x645,
    0x62e]]),
  (0xfd58, [[0x62c, 0x645, 0x62d], [0x62c, 0x645, 0x62d], [0x62d, 0x645, 0x64a], [0x62d, 0x645,
    0x649]]),
  (0xfd5c, [[0x633, 0x62d, 0x62c], [0x633, 0x62c, 0x62d], [0x633, 0x62c, 0x649], [0x633, 0x645,
    0x62d]]),
  (0xfd60, [[0x633, 0x645, 0x62d], [0x633, 0x645, 0x62c], [0x633, 0x645, 0x645], [0x633, 0x645,
    0x645]]),
  (0xfd64, [[0x635, 0x62d, 0x62d], [0x635, 0x62d, 0x62d], [0x635, 0x645, 0x645], [0x634, 0x62d,
    0x645]]),
  (0xfd68, [[0x634, 0x62d, 0x645], [0x634, 0x62c, 0x64a], [0x634, 0x645, 0x62e], [0x634, 0x645,
    0x62e]]),
  (0xfd6c, [[0x634, 0x645, 0x645], [0x634, 0x645, 0x645], [0x636, 0x62d, 0x649], [0x636, 0x62e,
    0x645]]),
  (0xfd70, [[0x636, 0x62e, 0x645], [0x637, 0x645, 0x62d], [0x637, 0x645, 0x62d], [0x637, 0x645,
    0x645]]),
  (0xfd74, [[0x637, 0x645, 0x64a], [0x639, 0x62c, 0x645], [0x639, 0x645, 0x645], [0x639, 0x645,
    0x645]]),
  (0xfd78, [[0x639, 0x645, 0x649], [0x63a, 0x645, 0x645], [0x63a, 0x645, 0x64a], [0x63a, 0x645,
    0x649]]),
  (0xfd7c, [[0x641, 0x62e, 0x645], [0x641, 0x62e, 0x645], [0x642, 0x645, 0x62d], [0x642, 0x645,
    0x645]]),
  (0xfd80, [[0x644, 0x62d, 0x645], [0x644, 0x62d, 0x64a], [0x644, 0x62d, 0x649], [0x644, 0x62c,
    0x62c]]),
  (0xfd84, [[0x644, 0x62c, 0x62c], [0x644, 0x62e, 0x645], [0x644, 0x62e, 0x645], [0x644, 0x645,
    0x62d]]),
  (0xfd88, [[0x644, 0x645, 0x62d], [0x645, 0x62d, 0x62c], [0x645, 0x62d, 0x645], [0x645, 0x62d,
    0x64a]]),
  (0xfd8c, [[0x645, 0x62c, 0x62d], [0x645, 0x62c, 0x645], [0x645, 0x62e, 0x62c], [0x645, 0x62e,
    0x645]]),
  (0xfd92, [[0x645, 0x62c, 0x62e], [0x647, 0x645, 0x62c], [0x647, 0x645, 0x645], [0x646, 0x62d,
    0x645]]),
  (0xfd96, [[0x646, 0x62d, 0x649], [0x646, 0x62c, 0x645], [0x646, 0x62c, 0x645], [0x646, 0x62c,
    0x649]]),
  (0xfd9a, [[0x646, 0x645, 0x64a], [0x646, 0x645, 0x649], [0x64a, 0x645, 0x645], [0x64a, 0x645,
    0x645]]),
  (0xfd9e, [[0x628, 0x62e, 0x64a], [0x62a, 0x62c, 0x64a], [0x62a, 0x62c, 0x649], [0x62a, 0x62e,
    0x64a]]),
  (0xfda2, [[0x62a, 0x62e, 0x649], [0x62a, 0x645, 0x64a], [0x62a, 0x645, 0x649], [0x62c, 0x645,
    0x64a]]),
  (0xfda6, [[0x62c, 0x62d, 0x649], [0x62c, 0x645, 0x649], [0x633, 0x62e, 0x649], [0x635, 0x62d,
    0x64a]]),
  (0xfdaa, [[0x634, 0x62d, 0x64a], [0x636, 0x62d, 0x64a], [0x644, 0x62c, 0x64a], [0x644, 0x645,
    0x64a]]),
  (0xfdae, [[0x64a, 0x62d, 0x64a], [0x64a, 0x62c, 0x64a], [0x64a, 0x645, 0x64a], [0x645, 0x645,
    0x64a]]),
  (0xfdb2, [[0x642, 0x645, 0x64a], [0x646, 0x62d, 0x64a], [0x642, 0x645, 0x62d], [0x644, 0x62d,
    0x645]]),
  (0xfdb6, [[0x639, 0x645, 0x64a], [0x643, 0x645, 0x64a], [0x646, 0x62c, 0x62d], [0x645, 0x62e,
    0x64a]]),
  (0xfdba, [[0x644, 0x62c, 0x645], [0x643, 0x645, 0x645], [0x644, 0x62c, 0x645], [0x646, 0x62c,
    0x62d]]),
  (0xfdbe, [[0x62c, 0x62d, 0x64a], [0x62d, 0x62c, 0x64a], [0x645, 0x62c, 0x64a], [0x641, 0x645,
    0x64a]]),
  (0xfdc2, [[0x628, 0x62d, 0x64a], [0x643, 0x645, 0x645], [0x639, 0x62c, 0x645], [0x635, 0x645,
    0x645]]), (0xfdc6, [[0x633, 0x62e, 0x64a], [0x646, 0x62c, 0x64a]]),
  (0xfdf0, [[0x635, 0x644, 0x6d2], [0x642, 0x644, 0x6d2], [0x627, 0x644, 0x644, 0x647]]),
  (0xfdf3, [[0x627, 0x643, 0x628, 0x631], [0x645, 0x62d, 0x645, 0x62f], [0x635, 0x644, 0x639,
    0x645]]),
  (0xfdf6, [[0x631, 0x633, 0x648, 0x644], [0x639, 0x644, 0x64a, 0x647], [0x648, 0x633, 0x644,
    0x645]]), (0xfdf9, [[0x635, 0x644, 0x649]]), (0xfdfc, [[0x631, 0x6cc, 0x627, 0x644]]),
  (0xfe10, [[0x2c], [0x3001]]), (0xfe15, [[0x21], [0x3f]]),
  (0xfe31, [[0x2014], [0x2013], [0x5f], [0x5f]]), (0xfe37, [[0x7b], [0x7d]]),
  (0xfe47, [[0x5b], [0x5d]]), (0xfe4d, [[0x5f], [0x5f], [0x5f], [0x2c], [0x3001]]),
  (0xfe54, [[0x3b], [0x3a], [0x3f], [0x21], [0x2014]]), (0xfe5b, [[0x7b], [0x7d]]),
  (0xfe5f, [[0x23], [0x26]]), (0xfe63, [[0x2d], [0x3c], [0x3e], [0x3d]]), (0xfe68, [[0x5c]]),
  (0xfe6b, [[0x40]]), (0xfe71, [[0x640, 0x64b]]), (0xfe77, [[0x640, 0x64e]]),
  (0xfe79, [[0x640, 0x64f]]), (0xfe7b, [[0x640, 0x650]]), (0xfe7d, [[0x640, 0x651]]),
  (0xfe7f, [[0x640, 0x652]]), (0xfe8a, [[0x626], [0x626]]), (0xfe90, [[0x628], [0x628]]),
  (0xfe96, [[0x62a], [0x62a]]), (0xfe9a, [[0x62b], [0x62b]]), (0xfe9e, [[0x62c], [0x62c]]),
  (0xfea2, [[0x62d], [0x62d]]), (0xfea6, [[0x62e], [0x62e]]), (0xfeb2, [[0x633], [0x633]]),
  (0xfeb6, [[0x634], [0x634]]), (0xfeba, [[0x635], [0x635]]), (0xfebe, [[0x636], [0x636]]),
  (0xfec2, [[0x637], [0x637]]), (0xfec6, [[0x638], [0x638]]), (0xfeca, [[0x639], [0x639]]),
  (0xfece, [[0x63a], [0x63a], [0x63a], [0x641], [0x641], [0x641]]), (0xfed6, [[0x642], [0x642]]),
  (0xfeda, [[0x643], [0x643]]), (0xfede, [[0x644], [0x644]]), (0xfee2, [[0x645], [0x645]]),
  (0xfee6, [[0x646], [0x646]]), (0xfeea, [[0x647], [0x647]]),
  (0xfef2, [[0x64a], [0x64a], [0x64a], [0x644, 0x622], [0x644, 0x622], [0x644, 0x623], [0x644,
    0x623], [0x644, 0x625]]), (0xfefa, [[0x644, 0x625], [0x644, 0x627], [0x644, 0x627]]),
  (0xff61, [[0x2e]]),
  (0xff64, [[0x3001], [0x30fb], [0x30f2], [0x30a1], [0x30a3], [0x30a5], [0x30a7], [0x30a9],
    [0x30e3], [0x30e5], [0x30e7], [0x30c3]]),
  (0xff70, [[0x30fc], [0x30a2], [0x30a4], [0x30a6], [0x30a8]]),
  (0xff77, [[0x30ad], [0x30af], [0x30b1], [0x30b3], [0x30b5], [0x30b7], [0x30b9], [0x30bb],
    [0x30bd], [0x30bf], [0x30c1], [0x30c4]]), (0xff83, [[0x30c6], [0x30c8]]),
  (0xff8b, [[0x30d2], [0x30d5], [0x30d8], [0x30db]]), (0xff94, [[0x30e4], [0x30e6]]),
  (0xff9c, [[0x30ef], [0x30f3]]), (0xffa4, [[0x1102]]), (0xffa6, [[0x11ad]]), (0xffb0, [[0x111a]]),
  (0xffb4, [[0x1121]]), (0xffe2, [[0xac]]), (0xffe4, [[0xa6], [0xa5], [0x20a9]]),
  (0xffe8, [[0x2502]]), (0xffed, [[0x25a0], [0x25cb]])]

def rareRows : List (Nat × List (List Nat)) := [
  (0x10783, [[0xe6], [0x299], [0x253]]), (0x10788, [[0xab66]]), (0x1078a, [[0x2a4]]),
  (0x1078d, [[0x1d91], [0x258], [0x25e], [0x2a9], [0x264], [0x262], [0x260], [0x29b], [0x127],
    [0x29c], [0x267], [0x284]]), (0x1079b, [[0x26c]]), (0x1079d, [[0xa78e], [0x26e]]),
  (0x107a0, [[0x28e]]), (0x107a2, [[0xf8]]), (0x107a5, [[0x71], [0x27a]]),
  (0x107aa, [[0x280], [0x2a8], [0x2a6], [0xab67], [0x2a7], [0x288], [0x2c71]]),
  (0x107b2, [[0x28f]]), (0x107b5, [[0x298]]), (0x1d49f, [[0x64]]), (0x1d4a2, [[0x67]]),
  (0x1d546, [[0x6f]]), (0x1d6a4, [[0x131], [0x237]]), (0x1d6b9, [[0x3b8]]), (0x1d6c1, [[0x2207]]),
  (0x1d6d3, [[0x3c3]]), (0x1d6db, [[0x2202], [0x3b5], [0x3b8], [0x3ba], [0x3c6], [0x3c1], [0x3c0]]),
  (0x1d6f3, [[0x3b8]]), (0x1d6fb, [[0x2207]]), (0x1d70d, [[0x3c3]]),
  (0x1d715, [[0x2202], [0x3b5], [0x3b8], [0x3ba], [0x3c6], [0x3c1], [0x3c0]]), (0x1d72d, [[0x3b8]]),
  (0x1d735, [[0x2207]]), (0x1d747, [[0x3c3]]),
  (0x1d74f, [[0x2202], [0x3b5], [0x3b8], [0x3ba], [0x3c6], [0x3c1], [0x3c0]]), (0x1d767, [[0x3b8]]),
  (0x1d76f, [[0x2207]]), (0x1d781, [[0x3c3]]),
  (0x1d789, [[0x2202], [0x3b5], [0x3b8], [0x3ba], [0x3c6], [0x3c1], [0x3c0]]), (0x1d7a1, [[0x3b8]]),
  (0x1d7a9, [[0x2207]]), (0x1d7bb, [[0x3c3]]),
  (0x1d7c3, [[0x2202], [0x3b5], [0x3b8], [0x3ba], [0x3c6], [0x3c1], [0x3c0], [0x3dd], [0x3dd]]),
  (0x1e047, [[0x44b]]), (0x1e04a, [[0xa689], [0x4d9], [0x456], [0x458], [0x4e9], [0x4af], [0x4cf]]),
  (0x1e05e, [[0x441]]), (0x1e067, [[0x491], [0x456], [0x455], [0x45f], [0x4ab], [0xa651], [0x4b1]]),
  (0x1ee02, [[0x62c], [0x62f]]), (0x1ee05, [[0x648], [0x632], [0x62d], [0x637], [0x64a]]),
  (0x1ee0e, [[0x633], [0x639], [0x641], [0x635], [0x642], [0x631], [0x634]]),
  (0x1ee17, [[0x62e], [0x630], [0x636], [0x638], [0x63a], [0x66e], [0x6ba], [0x6a1], [0x66f]]),
  (0x1ee21, [[0x628], [0x62c]]), (0x1ee24, [[0x647]]), (0x1ee27, [[0x62d]]), (0x1ee29, [[0x64a]]),
  (0x1ee2e, [[0x633], [0x639], [0x641], [0x635], [0x642]]), (0x1ee34, [[0x634]]),
  (0x1ee37, [[0x62e]]), (0x1ee39, [[0x636]]), (0x1ee3b, [[0x63a]]), (0x1ee42, [[0x62c]]),
  (0x1ee47, [[0x62d]]), (0x1ee49, [[0x64a]]), (0x1ee4e, [[0x633], [0x639]]),
  (0x1ee51, [[0x635], [0x642]]), (0x1ee54, [[0x634]]), (0x1ee57, [[0x62e]]), (0x1ee59, [[0x636]]),
  (0x1ee5b, [[0x63a]]), (0x1ee5d, [[0x6ba]]), (0x1ee5f, [[0x66f]]), (0x1ee61, [[0x628], [0x62c]]),
  (0x1ee64, [[0x647]]), (0x1ee67, [[0x62d], [0x637], [0x64a]]),
  (0x1ee6d, [[0x646], [0x633], [0x639], [0x641], [0x635], [0x642]]), (0x1ee74, [[0x634]]),
  (0x1ee77, [[0x62e]]), (0x1ee79, [[0x636], [0x638], [0x63a], [0x66e]]), (0x1ee7e, [[0x6a1]]),
  (0x1ee82, [[0x62c], [0x62f]]), (0x1ee86, [[0x632], [0x62d], [0x637], [0x64a]]),
  (0x1ee8e, [[0x633], [0x639], [0x641], [0x635], [0x642], [0x631], [0x634]]),
  (0x1ee97, [[0x62e], [0x630], [0x636], [0x638], [0x63a]]), (0x1eea1, [[0x628], [0x62c], [0x62f]]),
  (0x1eea5, [[0x648], [0x632], [0x62d], [0x637], [0x64a]]),
  (0x1eeae, [[0x633], [0x639], [0x641], [0x635], [0x642], [0x631], [0x634]]),
  (0x1eeb7, [[0x62e], [0x630], [0x636], [0x638], [0x63a]]),
  (0x1f101, [[0x30, 0x2c], [0x31, 0x2c], [0x32, 0x2c], [0x33, 0x2c], [0x34, 0x2c], [0x35, 0x2c],
    [0x36, 0x2c], [0x37, 0x2c], [0x38, 0x2c], [0x39, 0x2c]]),
  (0x1f110, [[0x28, 0x61, 0x29], [0x28, 0x62, 0x29], [0x28, 0x63, 0x29], [0x28, 0x64, 0x29], [0x28,
    0x65, 0x29], [0x28, 0x66, 0x29], [0x28, 0x67, 0x29], [0x28, 0x68, 0x29], [0x28, 0x69, 0x29],
    [0x28, 0x6a, 0x29], [0x28, 0x6b, 0x29], [0x28, 0x6c, 0x29], [0x28, 0x6d, 0x29], [0x28, 0x6e,
    0x29], [0x28, 0x6f, 0x29], [0x28, 0x70, 0x29], [0x28, 0x71, 0x29], [0x28, 0x72, 0x29], [0x28,
    0x73, 0x29], [0x28, 0x74, 0x29], [0x28, 0x75, 0x29]]),
  (0x1f125, [[0x28, 0x76, 0x29], [0x28, 0x77, 0x29], [0x28, 0x78, 0x29], [0x28, 0x79, 0x29], [0x28,
    0x7a, 0x29], [0x3014, 0x73, 0x3015], [0x63], [0x72], [0x63, 0x64], [0x77, 0x7a]]),
  (0x1f14a, [[0x68, 0x76], [0x6d, 0x76], [0x73, 0x64], [0x73, 0x73], [0x70, 0x70, 0x76], [0x77,
    0x63]]), (0x1f16a, [[0x6d, 0x63], [0x6d, 0x64], [0x6d, 0x72]]), (0x1f190, [[0x64, 0x6a]]),
  (0x1f200, [[0x307b, 0x304b], [0x30b3, 0x30b3], [0x30b5]]),
  (0x1f210, [[0x624b], [0x5b57], [0x53cc], [0x30c7], [0x4e8c], [0x591a], [0x89e3], [0x5929],
    [0x4ea4], [0x6620], [0x7121], [0x6599]]),
  (0x1f21c, [[0x524d], [0x5f8c], [0x518d], [0x65b0], [0x521d], [0x7d42], [0x751f], [0x8ca9],
    [0x58f0], [0x5439], [0x6f14], [0x6295]]),
  (0x1f228, [[0x6355], [0x4e00], [0x4e09], [0x904a], [0x5de6], [0x4e2d], [0x53f3], [0x6307],
    [0x8d70], [0x6253], [0x7981], [0x7a7a]]),
  (0x1f234, [[0x5408], [0x6e80], [0x6709], [0x6708], [0x7533], [0x5272], [0x55b6], [0x914d]]),
  (0x1f240, [[0x3014, 0x672c, 0x3015], [0x3014, 0x4e09, 0x3015], [0x3014, 0x4e8c, 0x3015], [0x3014,
    0x5b89, 0x3015]]),
  (0x1f244, [[0x3014, 0x70b9, 0x3015], [0x3014, 0x6253, 0x3015], [0x3014, 0x76d7, 0x3015], [0x3014,
    0x52dd, 0x3015]]), (0x1f248, [[0x3014, 0x6557, 0x3015]]), (0x1f250, [[0x5f97], [0x53ef]])]

def rows : List (Nat × List (List Nat)) :=
  letterRows ++ signRows ++ squareRows ++ formRows ++ rareRows

def spelling? (n : Nat) : Option (List Char) :=
  rows.findSome? fun (first, images) =>
    if first ≤ n then images[n - first]?.map fun image => image.map Char.ofNat else none

end Playground.Url.Spelling
