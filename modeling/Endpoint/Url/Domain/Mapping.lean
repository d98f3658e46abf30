import Endpoint.Text.CodePoints
import Endpoint.Text.Split

/-!
The mapping of the characters of domain names: capitals to small letters, variants to the
characters that they vary, and marks without a form of their own to nothing. Some characters
stand in no domain name.
-/

namespace Endpoint.Url.Domain

/-- Code points above ASCII that no domain name holds. -/
def refusedPoints : Text.CodePoints :=
  [
    (0x80, 0x9f), (0x378, 0x379), (0x380, 0x383), (0x38b, 0x38b), (0x38d, 0x38d), (0x3a2, 0x3a2),
    (0x530, 0x530), (0x557, 0x558), (0x58b, 0x58c), (0x590, 0x590), (0x5c8, 0x5cf),
    (0x5eb, 0x5ee), (0x5f5, 0x605), (0x61c, 0x61c), (0x6dd, 0x6dd), (0x70e, 0x70f),
    (0x74b, 0x74c), (0x7b2, 0x7bf), (0x7fb, 0x7fc), (0x82e, 0x82f), (0x83f, 0x83f),
    (0x85c, 0x85d), (0x85f, 0x85f), (0x86b, 0x86f), (0x890, 0x896), (0x8e2, 0x8e2),
    (0x984, 0x984), (0x98d, 0x98e), (0x991, 0x992), (0x9a9, 0x9a9), (0x9b1, 0x9b1),
    (0x9b3, 0x9b5), (0x9ba, 0x9bb), (0x9c5, 0x9c6), (0x9c9, 0x9ca), (0x9cf, 0x9d6),
    (0x9d8, 0x9db), (0x9de, 0x9de), (0x9e4, 0x9e5), (0x9ff, 0xa00), (0xa04, 0xa04),
    (0xa0b, 0xa0e), (0xa11, 0xa12), (0xa29, 0xa29), (0xa31, 0xa31), (0xa34, 0xa34),
    (0xa37, 0xa37), (0xa3a, 0xa3b), (0xa3d, 0xa3d), (0xa43, 0xa46), (0xa49, 0xa4a),
    (0xa4e, 0xa50), (0xa52, 0xa58), (0xa5d, 0xa5d), (0xa5f, 0xa65), (0xa77, 0xa80),
    (0xa84, 0xa84), (0xa8e, 0xa8e), (0xa92, 0xa92), (0xaa9, 0xaa9), (0xab1, 0xab1),
    (0xab4, 0xab4), (0xaba, 0xabb), (0xac6, 0xac6), (0xaca, 0xaca), (0xace, 0xacf),
    (0xad1, 0xadf), (0xae4, 0xae5), (0xaf2, 0xaf8), (0xb00, 0xb00), (0xb04, 0xb04),
    (0xb0d, 0xb0e), (0xb11, 0xb12), (0xb29, 0xb29), (0xb31, 0xb31), (0xb34, 0xb34),
    (0xb3a, 0xb3b), (0xb45, 0xb46), (0xb49, 0xb4a), (0xb4e, 0xb54), (0xb58, 0xb5b),
    (0xb5e, 0xb5e), (0xb64, 0xb65), (0xb78, 0xb81), (0xb84, 0xb84), (0xb8b, 0xb8d),
    (0xb91, 0xb91), (0xb96, 0xb98), (0xb9b, 0xb9b), (0xb9d, 0xb9d), (0xba0, 0xba2),
    (0xba5, 0xba7), (0xbab, 0xbad), (0xbba, 0xbbd), (0xbc3, 0xbc5), (0xbc9, 0xbc9),
    (0xbce, 0xbcf), (0xbd1, 0xbd6), (0xbd8, 0xbe5), (0xbfb, 0xbff), (0xc0d, 0xc0d),
    (0xc11, 0xc11), (0xc29, 0xc29), (0xc3a, 0xc3b), (0xc45, 0xc45), (0xc49, 0xc49),
    (0xc4e, 0xc54), (0xc57, 0xc57), (0xc5b, 0xc5b), (0xc5e, 0xc5f), (0xc64, 0xc65),
    (0xc70, 0xc76), (0xc8d, 0xc8d), (0xc91, 0xc91), (0xca9, 0xca9), (0xcb4, 0xcb4),
    (0xcba, 0xcbb), (0xcc5, 0xcc5), (0xcc9, 0xcc9), (0xcce, 0xcd4), (0xcd7, 0xcdb),
    (0xcdf, 0xcdf), (0xce4, 0xce5), (0xcf0, 0xcf0), (0xcf4, 0xcff), (0xd0d, 0xd0d),
    (0xd11, 0xd11), (0xd45, 0xd45), (0xd49, 0xd49), (0xd50, 0xd53), (0xd64, 0xd65),
    (0xd80, 0xd80), (0xd84, 0xd84), (0xd97, 0xd99), (0xdb2, 0xdb2), (0xdbc, 0xdbc),
    (0xdbe, 0xdbf), (0xdc7, 0xdc9), (0xdcb, 0xdce), (0xdd5, 0xdd5), (0xdd7, 0xdd7),
    (0xde0, 0xde5), (0xdf0, 0xdf1), (0xdf5, 0xe00), (0xe3b, 0xe3e), (0xe5c, 0xe80),
    (0xe83, 0xe83), (0xe85, 0xe85), (0xe8b, 0xe8b), (0xea4, 0xea4), (0xea6, 0xea6),
    (0xebe, 0xebf), (0xec5, 0xec5), (0xec7, 0xec7), (0xecf, 0xecf), (0xeda, 0xedb),
    (0xee0, 0xeff), (0xf48, 0xf48), (0xf6d, 0xf70), (0xf98, 0xf98), (0xfbd, 0xfbd),
    (0xfcd, 0xfcd), (0xfdb, 0xfff), (0x10c6, 0x10c6), (0x10c8, 0x10cc), (0x10ce, 0x10cf),
    (0x1249, 0x1249), (0x124e, 0x124f), (0x1257, 0x1257), (0x1259, 0x1259), (0x125e, 0x125f),
    (0x1289, 0x1289), (0x128e, 0x128f), (0x12b1, 0x12b1), (0x12b6, 0x12b7), (0x12bf, 0x12bf),
    (0x12c1, 0x12c1), (0x12c6, 0x12c7), (0x12d7, 0x12d7), (0x1311, 0x1311), (0x1316, 0x1317),
    (0x135b, 0x135c), (0x137d, 0x137f), (0x139a, 0x139f), (0x13f6, 0x13f7), (0x13fe, 0x13ff),
    (0x1680, 0x1680), (0x169d, 0x169f), (0x16f9, 0x16ff), (0x1716, 0x171e), (0x1737, 0x173f),
    (0x1754, 0x175f), (0x176d, 0x176d), (0x1771, 0x1771), (0x1774, 0x177f), (0x17de, 0x17df),
    (0x17ea, 0x17ef), (0x17fa, 0x17ff), (0x181a, 0x181f), (0x1879, 0x187f), (0x18ab, 0x18af),
    (0x18f6, 0x18ff), (0x191f, 0x191f), (0x192c, 0x192f), (0x193c, 0x193f), (0x1941, 0x1943),
    (0x196e, 0x196f), (0x1975, 0x197f), (0x19ac, 0x19af), (0x19ca, 0x19cf), (0x19db, 0x19dd),
    (0x1a1c, 0x1a1d), (0x1a5f, 0x1a5f), (0x1a7d, 0x1a7e), (0x1a8a, 0x1a8f), (0x1a9a, 0x1a9f),
    (0x1aae, 0x1aaf), (0x1ade, 0x1adf), (0x1aec, 0x1aff), (0x1b4d, 0x1b4d), (0x1bf4, 0x1bfb),
    (0x1c38, 0x1c3a), (0x1c4a, 0x1c4c), (0x1c8b, 0x1c8f), (0x1cbb, 0x1cbc), (0x1cc8, 0x1ccf),
    (0x1cfb, 0x1cff), (0x1f16, 0x1f17), (0x1f1e, 0x1f1f), (0x1f46, 0x1f47), (0x1f4e, 0x1f4f),
    (0x1f58, 0x1f58), (0x1f5a, 0x1f5a), (0x1f5c, 0x1f5c), (0x1f5e, 0x1f5e), (0x1f7e, 0x1f7f),
    (0x1fb5, 0x1fb5), (0x1fc5, 0x1fc5), (0x1fd4, 0x1fd5), (0x1fdc, 0x1fdc), (0x1ff0, 0x1ff1),
    (0x1ff5, 0x1ff5), (0x1fff, 0x1fff), (0x200e, 0x200f), (0x2024, 0x2026), (0x2028, 0x202e),
    (0x2065, 0x2069), (0x2072, 0x2073), (0x208f, 0x208f), (0x209d, 0x209f), (0x20c2, 0x20cf),
    (0x20f1, 0x20ff), (0x218c, 0x218f), (0x242a, 0x243f), (0x244b, 0x245f), (0x2488, 0x249b),
    (0x2b74, 0x2b75), (0x2cf4, 0x2cf8), (0x2d26, 0x2d26), (0x2d28, 0x2d2c), (0x2d2e, 0x2d2f),
    (0x2d68, 0x2d6e), (0x2d71, 0x2d7e), (0x2d97, 0x2d9f), (0x2da7, 0x2da7), (0x2daf, 0x2daf),
    (0x2db7, 0x2db7), (0x2dbf, 0x2dbf), (0x2dc7, 0x2dc7), (0x2dcf, 0x2dcf), (0x2dd7, 0x2dd7),
    (0x2ddf, 0x2ddf), (0x2e5e, 0x2e7f), (0x2e9a, 0x2e9a), (0x2ef4, 0x2eff), (0x2fd6, 0x2fff),
    (0x3040, 0x3040), (0x3097, 0x3098), (0x3100, 0x3104), (0x3130, 0x3130), (0x318f, 0x318f),
    (0x31e6, 0x31ef), (0x321f, 0x321f), (0x33c2, 0x33c2), (0x33c7, 0x33c7), (0x33d8, 0x33d8),
    (0xa48d, 0xa48f), (0xa4c7, 0xa4cf), (0xa62c, 0xa63f), (0xa6f8, 0xa6ff), (0xa7dd, 0xa7f0),
    (0xa82d, 0xa82f), (0xa83a, 0xa83f), (0xa878, 0xa87f), (0xa8c6, 0xa8cd), (0xa8da, 0xa8df),
    (0xa954, 0xa95e), (0xa97d, 0xa97f), (0xa9ce, 0xa9ce), (0xa9da, 0xa9dd), (0xa9ff, 0xa9ff),
    (0xaa37, 0xaa3f), (0xaa4e, 0xaa4f), (0xaa5a, 0xaa5b), (0xaac3, 0xaada), (0xaaf7, 0xab00),
    (0xab07, 0xab08), (0xab0f, 0xab10), (0xab17, 0xab1f), (0xab27, 0xab27), (0xab2f, 0xab2f),
    (0xab6c, 0xab6f), (0xabee, 0xabef), (0xabfa, 0xabff), (0xd7a4, 0xd7af), (0xd7c7, 0xd7ca),
    (0xd7fc, 0xf8ff), (0xfa6e, 0xfa6f), (0xfada, 0xfaff), (0xfb07, 0xfb12), (0xfb18, 0xfb1c),
    (0xfb37, 0xfb37), (0xfb3d, 0xfb3d), (0xfb3f, 0xfb3f), (0xfb42, 0xfb42), (0xfb45, 0xfb45),
    (0xfdd0, 0xfdef), (0xfe12, 0xfe12), (0xfe19, 0xfe1f), (0xfe30, 0xfe30), (0xfe52, 0xfe53),
    (0xfe67, 0xfe67), (0xfe6c, 0xfe6f), (0xfe75, 0xfe75), (0xfefd, 0xfefe), (0xff00, 0xff00),
    (0xffbf, 0xffc1), (0xffc8, 0xffc9), (0xffd0, 0xffd1), (0xffd8, 0xffd9), (0xffdd, 0xffdf),
    (0xffe7, 0xffe7), (0xffef, 0xffff), (0x1000c, 0x1000c), (0x10027, 0x10027),
    (0x1003b, 0x1003b), (0x1003e, 0x1003e), (0x1004e, 0x1004f), (0x1005e, 0x1007f),
    (0x100fb, 0x100ff), (0x10103, 0x10106), (0x10134, 0x10136), (0x1018f, 0x1018f),
    (0x1019d, 0x1019f), (0x101a1, 0x101cf), (0x101fe, 0x1027f), (0x1029d, 0x1029f),
    (0x102d1, 0x102df), (0x102fc, 0x102ff), (0x10324, 0x1032c), (0x1034b, 0x1034f),
    (0x1037b, 0x1037f), (0x1039e, 0x1039e), (0x103c4, 0x103c7), (0x103d6, 0x103ff),
    (0x1049e, 0x1049f), (0x104aa, 0x104af), (0x104d4, 0x104d7), (0x104fc, 0x104ff),
    (0x10528, 0x1052f), (0x10564, 0x1056e), (0x1057b, 0x1057b), (0x1058b, 0x1058b),
    (0x10593, 0x10593), (0x10596, 0x10596), (0x105a2, 0x105a2), (0x105b2, 0x105b2),
    (0x105ba, 0x105ba), (0x105bd, 0x105bf), (0x105f4, 0x105ff), (0x10737, 0x1073f),
    (0x10756, 0x1075f), (0x10768, 0x1077f), (0x10786, 0x10786), (0x107b1, 0x107b1),
    (0x107bb, 0x107ff), (0x10806, 0x10807), (0x10809, 0x10809), (0x10836, 0x10836),
    (0x10839, 0x1083b), (0x1083d, 0x1083e), (0x10856, 0x10856), (0x1089f, 0x108a6),
    (0x108b0, 0x108df), (0x108f3, 0x108f3), (0x108f6, 0x108fa), (0x1091c, 0x1091e),
    (0x1093a, 0x1093e), (0x1095a, 0x1097f), (0x109b8, 0x109bb), (0x109d0, 0x109d1),
    (0x10a04, 0x10a04), (0x10a07, 0x10a0b), (0x10a14, 0x10a14), (0x10a18, 0x10a18),
    (0x10a36, 0x10a37), (0x10a3b, 0x10a3e), (0x10a49, 0x10a4f), (0x10a59, 0x10a5f),
    (0x10aa0, 0x10abf), (0x10ae7, 0x10aea), (0x10af7, 0x10aff), (0x10b36, 0x10b38),
    (0x10b56, 0x10b57), (0x10b73, 0x10b77), (0x10b92, 0x10b98), (0x10b9d, 0x10ba8),
    (0x10bb0, 0x10bff), (0x10c49, 0x10c7f), (0x10cb3, 0x10cbf), (0x10cf3, 0x10cf9),
    (0x10d28, 0x10d2f), (0x10d3a, 0x10d3f), (0x10d66, 0x10d68), (0x10d86, 0x10d8d),
    (0x10d90, 0x10e5f), (0x10e7f, 0x10e7f), (0x10eaa, 0x10eaa), (0x10eae, 0x10eaf),
    (0x10eb2, 0x10ec1), (0x10ec8, 0x10ecf), (0x10ed9, 0x10ef9), (0x10f28, 0x10f2f),
    (0x10f5a, 0x10f6f), (0x10f8a, 0x10faf), (0x10fcc, 0x10fdf), (0x10ff7, 0x10fff),
    (0x1104e, 0x11051), (0x11076, 0x1107e), (0x110bd, 0x110bd), (0x110c3, 0x110cf),
    (0x110e9, 0x110ef), (0x110fa, 0x110ff), (0x11135, 0x11135), (0x11148, 0x1114f),
    (0x11177, 0x1117f), (0x111e0, 0x111e0), (0x111f5, 0x111ff), (0x11212, 0x11212),
    (0x11242, 0x1127f), (0x11287, 0x11287), (0x11289, 0x11289), (0x1128e, 0x1128e),
    (0x1129e, 0x1129e), (0x112aa, 0x112af), (0x112eb, 0x112ef), (0x112fa, 0x112ff),
    (0x11304, 0x11304), (0x1130d, 0x1130e), (0x11311, 0x11312), (0x11329, 0x11329),
    (0x11331, 0x11331), (0x11334, 0x11334), (0x1133a, 0x1133a), (0x11345, 0x11346),
    (0x11349, 0x1134a), (0x1134e, 0x1134f), (0x11351, 0x11356), (0x11358, 0x1135c),
    (0x11364, 0x11365), (0x1136d, 0x1136f), (0x11375, 0x1137f), (0x1138a, 0x1138a),
    (0x1138c, 0x1138d), (0x1138f, 0x1138f), (0x113b6, 0x113b6), (0x113c1, 0x113c1),
    (0x113c3, 0x113c4), (0x113c6, 0x113c6), (0x113cb, 0x113cb), (0x113d6, 0x113d6),
    (0x113d9, 0x113e0), (0x113e3, 0x113ff), (0x1145c, 0x1145c), (0x11462, 0x1147f),
    (0x114c8, 0x114cf), (0x114da, 0x1157f), (0x115b6, 0x115b7), (0x115de, 0x115ff),
    (0x11645, 0x1164f), (0x1165a, 0x1165f), (0x1166d, 0x1167f), (0x116ba, 0x116bf),
    (0x116ca, 0x116cf), (0x116e4, 0x116ff), (0x1171b, 0x1171c), (0x1172c, 0x1172f),
    (0x11747, 0x117ff), (0x1183c, 0x1189f), (0x118f3, 0x118fe), (0x11907, 0x11908),
    (0x1190a, 0x1190b), (0x11914, 0x11914), (0x11917, 0x11917), (0x11936, 0x11936),
    (0x11939, 0x1193a), (0x11947, 0x1194f), (0x1195a, 0x1199f), (0x119a8, 0x119a9),
    (0x119d8, 0x119d9), (0x119e5, 0x119ff), (0x11a48, 0x11a4f), (0x11aa3, 0x11aaf),
    (0x11af9, 0x11aff), (0x11b0a, 0x11b5f), (0x11b68, 0x11bbf), (0x11be2, 0x11bef),
    (0x11bfa, 0x11bff), (0x11c09, 0x11c09), (0x11c37, 0x11c37), (0x11c46, 0x11c4f),
    (0x11c6d, 0x11c6f), (0x11c90, 0x11c91), (0x11ca8, 0x11ca8), (0x11cb7, 0x11cff),
    (0x11d07, 0x11d07), (0x11d0a, 0x11d0a), (0x11d37, 0x11d39), (0x11d3b, 0x11d3b),
    (0x11d3e, 0x11d3e), (0x11d48, 0x11d4f), (0x11d5a, 0x11d5f), (0x11d66, 0x11d66),
    (0x11d69, 0x11d69), (0x11d8f, 0x11d8f), (0x11d92, 0x11d92), (0x11d99, 0x11d9f),
    (0x11daa, 0x11daf), (0x11ddc, 0x11ddf), (0x11dea, 0x11edf), (0x11ef9, 0x11eff),
    (0x11f11, 0x11f11), (0x11f3b, 0x11f3d), (0x11f5b, 0x11faf), (0x11fb1, 0x11fbf),
    (0x11ff2, 0x11ffe), (0x1239a, 0x123ff), (0x1246f, 0x1246f), (0x12475, 0x1247f),
    (0x12544, 0x12f8f), (0x12ff3, 0x12fff), (0x13430, 0x1343f), (0x13456, 0x1345f),
    (0x143fb, 0x143ff), (0x14647, 0x160ff), (0x1613a, 0x167ff), (0x16a39, 0x16a3f),
    (0x16a5f, 0x16a5f), (0x16a6a, 0x16a6d), (0x16abf, 0x16abf), (0x16aca, 0x16acf),
    (0x16aee, 0x16aef), (0x16af6, 0x16aff), (0x16b46, 0x16b4f), (0x16b5a, 0x16b5a),
    (0x16b62, 0x16b62), (0x16b78, 0x16b7c), (0x16b90, 0x16d3f), (0x16d7a, 0x16e3f),
    (0x16e9b, 0x16e9f), (0x16eb9, 0x16eba), (0x16ed4, 0x16eff), (0x16f4b, 0x16f4e),
    (0x16f88, 0x16f8e), (0x16fa0, 0x16fdf), (0x16fe5, 0x16fef), (0x16ff7, 0x16fff),
    (0x18cd6, 0x18cfe), (0x18d1f, 0x18d7f), (0x18df3, 0x1afef), (0x1aff4, 0x1aff4),
    (0x1affc, 0x1affc), (0x1afff, 0x1afff), (0x1b123, 0x1b131), (0x1b133, 0x1b14f),
    (0x1b153, 0x1b154), (0x1b156, 0x1b163), (0x1b168, 0x1b16f), (0x1b2fc, 0x1bbff),
    (0x1bc6b, 0x1bc6f), (0x1bc7d, 0x1bc7f), (0x1bc89, 0x1bc8f), (0x1bc9a, 0x1bc9b),
    (0x1bca4, 0x1cbff), (0x1ccfd, 0x1ccff), (0x1ceb4, 0x1ceb9), (0x1ced1, 0x1cedf),
    (0x1cef1, 0x1ceff), (0x1cf2e, 0x1cf2f), (0x1cf47, 0x1cf4f), (0x1cfc4, 0x1cfff),
    (0x1d0f6, 0x1d0ff), (0x1d127, 0x1d128), (0x1d1eb, 0x1d1ff), (0x1d246, 0x1d2bf),
    (0x1d2d4, 0x1d2df), (0x1d2f4, 0x1d2ff), (0x1d357, 0x1d35f), (0x1d379, 0x1d3ff),
    (0x1d455, 0x1d455), (0x1d49d, 0x1d49d), (0x1d4a0, 0x1d4a1), (0x1d4a3, 0x1d4a4),
    (0x1d4a7, 0x1d4a8), (0x1d4ad, 0x1d4ad), (0x1d4ba, 0x1d4ba), (0x1d4bc, 0x1d4bc),
    (0x1d4c4, 0x1d4c4), (0x1d506, 0x1d506), (0x1d50b, 0x1d50c), (0x1d515, 0x1d515),
    (0x1d51d, 0x1d51d), (0x1d53a, 0x1d53a), (0x1d53f, 0x1d53f), (0x1d545, 0x1d545),
    (0x1d547, 0x1d549), (0x1d551, 0x1d551), (0x1d6a6, 0x1d6a7), (0x1d7cc, 0x1d7cd),
    (0x1da8c, 0x1da9a), (0x1daa0, 0x1daa0), (0x1dab0, 0x1deff), (0x1df1f, 0x1df24),
    (0x1df2b, 0x1dfff), (0x1e007, 0x1e007), (0x1e019, 0x1e01a), (0x1e022, 0x1e022),
    (0x1e025, 0x1e025), (0x1e02b, 0x1e02f), (0x1e06e, 0x1e08e), (0x1e090, 0x1e0ff),
    (0x1e12d, 0x1e12f), (0x1e13e, 0x1e13f), (0x1e14a, 0x1e14d), (0x1e150, 0x1e28f),
    (0x1e2af, 0x1e2bf), (0x1e2fa, 0x1e2fe), (0x1e300, 0x1e4cf), (0x1e4fa, 0x1e5cf),
    (0x1e5fb, 0x1e5fe), (0x1e600, 0x1e6bf), (0x1e6df, 0x1e6df), (0x1e6f6, 0x1e6fd),
    (0x1e700, 0x1e7df), (0x1e7e7, 0x1e7e7), (0x1e7ec, 0x1e7ec), (0x1e7ef, 0x1e7ef),
    (0x1e7ff, 0x1e7ff), (0x1e8c5, 0x1e8c6), (0x1e8d7, 0x1e8ff), (0x1e94c, 0x1e94f),
    (0x1e95a, 0x1e95d), (0x1e960, 0x1ec70), (0x1ecb5, 0x1ed00), (0x1ed3e, 0x1edff),
    (0x1ee04, 0x1ee04), (0x1ee20, 0x1ee20), (0x1ee23, 0x1ee23), (0x1ee25, 0x1ee26),
    (0x1ee28, 0x1ee28), (0x1ee33, 0x1ee33), (0x1ee38, 0x1ee38), (0x1ee3a, 0x1ee3a),
    (0x1ee3c, 0x1ee41), (0x1ee43, 0x1ee46), (0x1ee48, 0x1ee48), (0x1ee4a, 0x1ee4a),
    (0x1ee4c, 0x1ee4c), (0x1ee50, 0x1ee50), (0x1ee53, 0x1ee53), (0x1ee55, 0x1ee56),
    (0x1ee58, 0x1ee58), (0x1ee5a, 0x1ee5a), (0x1ee5c, 0x1ee5c), (0x1ee5e, 0x1ee5e),
    (0x1ee60, 0x1ee60), (0x1ee63, 0x1ee63), (0x1ee65, 0x1ee66), (0x1ee6b, 0x1ee6b),
    (0x1ee73, 0x1ee73), (0x1ee78, 0x1ee78), (0x1ee7d, 0x1ee7d), (0x1ee7f, 0x1ee7f),
    (0x1ee8a, 0x1ee8a), (0x1ee9c, 0x1eea0), (0x1eea4, 0x1eea4), (0x1eeaa, 0x1eeaa),
    (0x1eebc, 0x1eeef), (0x1eef2, 0x1efff), (0x1f02c, 0x1f02f), (0x1f094, 0x1f09f),
    (0x1f0af, 0x1f0b0), (0x1f0c0, 0x1f0c0), (0x1f0d0, 0x1f0d0), (0x1f0f6, 0x1f100),
    (0x1f1ae, 0x1f1e5), (0x1f203, 0x1f20f), (0x1f23c, 0x1f23f), (0x1f249, 0x1f24f),
    (0x1f252, 0x1f25f), (0x1f266, 0x1f2ff), (0x1f6d9, 0x1f6db), (0x1f6ed, 0x1f6ef),
    (0x1f6fd, 0x1f6ff), (0x1f7da, 0x1f7df), (0x1f7ec, 0x1f7ef), (0x1f7f1, 0x1f7ff),
    (0x1f80c, 0x1f80f), (0x1f848, 0x1f84f), (0x1f85a, 0x1f85f), (0x1f888, 0x1f88f),
    (0x1f8ae, 0x1f8af), (0x1f8bc, 0x1f8bf), (0x1f8c2, 0x1f8cf), (0x1f8d9, 0x1f8ff),
    (0x1fa58, 0x1fa5f), (0x1fa6e, 0x1fa6f), (0x1fa7d, 0x1fa7f), (0x1fa8b, 0x1fa8d),
    (0x1fac7, 0x1fac7), (0x1fac9, 0x1facc), (0x1fadd, 0x1fade), (0x1faeb, 0x1faee),
    (0x1faf9, 0x1faff), (0x1fb93, 0x1fb93), (0x1fbfb, 0x1ffff), (0x2a6e0, 0x2a6ff),
    (0x2b81e, 0x2b81f), (0x2ceae, 0x2ceaf), (0x2ebe1, 0x2ebef), (0x2ee5e, 0x2f7ff),
    (0x2fa1e, 0x2ffff), (0x3134b, 0x3134f), (0x3347a, 0xe00ff), (0xe01f0, 0x10ffff)]

/-- Runs of mapped characters: the first code point, and the forms of it and of those that
follow it, divided by bars. A character whose form is empty is dropped. -/
def mappedRuns : List (Nat × String) :=
  [
    (0xa0, " "), (0xa8, " \u0308|©|a"), (0xad, "|®| \u0304"), (0xb2, "2|3| \u0301|μ"),
    (0xb8, " \u0327|1|o|»|1⁄4|1⁄2|3⁄4|¿|à|á|â|ã|ä|å|æ|ç|è|é|ê|ë|ì|í|î|ï|ð|ñ|ò|ó|ô|õ|ö|×|ø"),
    (0xd9, "ù|ú|û|ü|ý|þ"),
    (0x100, "ā|ā|ă|ă|ą|ą|ć|ć|ĉ|ĉ|ċ|ċ|č|č|ď|ď|đ|đ|ē|ē|ĕ|ĕ|ė|ė|ę|ę|ě|ě|ĝ|ĝ|ğ|ğ|ġ|ġ|ģ|ģ|ĥ|ĥ|ħ"),
    (0x128, "ĩ|ĩ|ī|ī|ĭ|ĭ|į|į|i\u0307|ı|ij|ij|ĵ|ĵ|ķ"),
    (0x139, "ĺ|ĺ|ļ|ļ|ľ|ľ|l·|l·|ł|ł|ń|ń|ņ|ņ|ň|ň|\u02bcn|ŋ|ŋ|ō|ō|ŏ|ŏ|ő|ő|œ|œ|ŕ|ŕ|ŗ|ŗ|ř|ř|ś|ś"),
    (0x15c, "ŝ|ŝ|ş|ş|š|š|ţ|ţ|ť|ť|ŧ|ŧ|ũ|ũ|ū|ū|ŭ|ŭ|ů|ů|ű|ű|ų|ų|ŵ|ŵ|ŷ|ŷ|ÿ|ź|ź|ż|ż|ž|ž|s|ƀ|ɓ|ƃ"),
    (0x184, "ƅ|ƅ|ɔ|ƈ|ƈ|ɖ|ɗ|ƌ"), (0x18e, "ǝ|ə|ɛ|ƒ|ƒ|ɠ|ɣ|ƕ|ɩ|ɨ|ƙ"),
    (0x19c, "ɯ|ɲ|ƞ|ɵ|ơ|ơ|ƣ|ƣ|ƥ|ƥ|ʀ|ƨ|ƨ|ʃ"), (0x1ac, "ƭ|ƭ|ʈ|ư|ư|ʊ|ʋ|ƴ|ƴ|ƶ|ƶ|ʒ|ƹ"), (0x1bc, "ƽ"),
    (0x1c4, "dž|dž|dž|lj|lj|lj|nj|nj|nj|ǎ|ǎ|ǐ|ǐ|ǒ|ǒ|ǔ|ǔ|ǖ|ǖ|ǘ|ǘ|ǚ|ǚ|ǜ"),
    (0x1de, "ǟ|ǟ|ǡ|ǡ|ǣ|ǣ|ǥ|ǥ|ǧ|ǧ|ǩ|ǩ|ǫ|ǫ|ǭ|ǭ|ǯ"),
    (0x1f1, "dz|dz|dz|ǵ|ǵ|ƕ|ƿ|ǹ|ǹ|ǻ|ǻ|ǽ|ǽ|ǿ|ǿ|ȁ|ȁ|ȃ|ȃ|ȅ|ȅ|ȇ|ȇ|ȉ|ȉ|ȋ|ȋ|ȍ|ȍ|ȏ|ȏ|ȑ|ȑ|ȓ|ȓ|ȕ|ȕ"),
    (0x216, "ȗ|ȗ|ș|ș|ț|ț|ȝ|ȝ|ȟ|ȟ|ƞ|ȡ|ȣ|ȣ|ȥ|ȥ|ȧ|ȧ|ȩ|ȩ|ȫ|ȫ|ȭ|ȭ|ȯ|ȯ|ȱ|ȱ|ȳ"), (0x23a, "ⱥ|ȼ|ȼ|ƚ|ⱦ"),
    (0x241, "ɂ|ɂ|ƀ|ʉ|ʌ|ɇ|ɇ|ɉ|ɉ|ɋ|ɋ|ɍ|ɍ|ɏ"), (0x2b0, "h|ɦ|j|r|ɹ|ɻ|ʁ|w|y"),
    (0x2d8, " \u0306| \u0307| \u030a| \u0328| \u0303| \u030b"), (0x2e0, "ɣ|l|s|x|ʕ"),
    (0x340, "\u0300|\u0301|\u0342|\u0313|\u0308\u0301|ι"), (0x34f, ""),
    (0x370, "ͱ|ͱ|ͳ|ͳ|\u02b9|͵|ͷ"), (0x37a, " ι"), (0x37e, ";|ϳ"),
    (0x384, " \u0301| \u0308\u0301|ά|·|έ|ή|ί||ό||ύ|ώ|ΐ|α|β|γ|δ|ε|ζ|η|θ|ι|κ|λ|μ|ν|ξ|ο|π|ρ|"),
    (0x3a3, "σ|τ|υ|φ|χ|ψ|ω|ϊ|ϋ"),
    (0x3cf, "ϗ|β|θ|υ|ύ|ϋ|φ|π|ϗ|ϙ|ϙ|ϛ|ϛ|ϝ|ϝ|ϟ|ϟ|ϡ|ϡ|ϣ|ϣ|ϥ|ϥ|ϧ|ϧ|ϩ|ϩ|ϫ|ϫ|ϭ|ϭ|ϯ|ϯ|κ|ρ|σ|ϳ|θ|ε"),
    (0x3f7, "ϸ|ϸ|σ|ϻ"),
    (0x3fd, "ͻ|ͼ|ͽ|ѐ|ё|ђ|ѓ|є|ѕ|і|ї|ј|љ|њ|ћ|ќ|ѝ|ў|џ|а|б|в|г|д|е|ж|з|и|й|к|л|м|н|о|п|р|с|т|у"),
    (0x424, "ф|х|ц|ч|ш|щ|ъ|ы|ь|э|ю|я"),
    (0x460, "ѡ|ѡ|ѣ|ѣ|ѥ|ѥ|ѧ|ѧ|ѩ|ѩ|ѫ|ѫ|ѭ|ѭ|ѯ|ѯ|ѱ|ѱ|ѳ|ѳ|ѵ|ѵ|ѷ|ѷ|ѹ|ѹ|ѻ|ѻ|ѽ|ѽ|ѿ|ѿ|ҁ"),
    (0x48a, "ҋ|ҋ|ҍ|ҍ|ҏ|ҏ|ґ|ґ|ғ|ғ|ҕ|ҕ|җ|җ|ҙ|ҙ|қ|қ|ҝ|ҝ|ҟ|ҟ|ҡ|ҡ|ң|ң|ҥ|ҥ|ҧ|ҧ|ҩ|ҩ|ҫ|ҫ|ҭ|ҭ|ү|ү|ұ"),
    (0x4b2, "ҳ|ҳ|ҵ|ҵ|ҷ|ҷ|ҹ|ҹ|һ|һ|ҽ|ҽ|ҿ|ҿ|ӏ|ӂ|ӂ|ӄ|ӄ|ӆ|ӆ|ӈ|ӈ|ӊ|ӊ|ӌ|ӌ|ӎ"),
    (0x4d0, "ӑ|ӑ|ӓ|ӓ|ӕ|ӕ|ӗ|ӗ|ә|ә|ӛ|ӛ|ӝ|ӝ|ӟ|ӟ|ӡ|ӡ|ӣ|ӣ|ӥ|ӥ|ӧ|ӧ|ө|ө|ӫ|ӫ|ӭ|ӭ|ӯ|ӯ|ӱ|ӱ|ӳ|ӳ|ӵ|ӵ|ӷ"),
    (0x4f8, "ӹ|ӹ|ӻ|ӻ|ӽ|ӽ|ӿ|ӿ|ԁ|ԁ|ԃ|ԃ|ԅ|ԅ|ԇ|ԇ|ԉ|ԉ|ԋ|ԋ|ԍ|ԍ|ԏ|ԏ|ԑ|ԑ|ԓ|ԓ|ԕ|ԕ|ԗ|ԗ|ԙ|ԙ|ԛ|ԛ|ԝ|ԝ|ԟ"),
    (0x520, "ԡ|ԡ|ԣ|ԣ|ԥ|ԥ|ԧ|ԧ|ԩ|ԩ|ԫ|ԫ|ԭ|ԭ|ԯ"),
    (0x531, "ա|բ|գ|դ|ե|զ|է|ը|թ|ժ|ի|լ|խ|ծ|կ|հ|ձ|ղ|ճ|մ|յ|ն|շ|ո|չ|պ|ջ|ռ|ս|վ|տ|ր|ց|ւ|փ|ք|օ|ֆ"),
    (0x587, "եւ"), (0x675, "\u0627\u0674|\u0648\u0674|\u06c7\u0674|\u064a\u0674"),
    (0x958, "क\u093c|ख\u093c|ग\u093c|ज\u093c|ड\u093c|ढ\u093c|फ\u093c|य\u093c"),
    (0x9dc, "ড\u09bc|ঢ\u09bc||য\u09bc"), (0xa33, "ਲ\u0a3c"), (0xa36, "ਸ\u0a3c"),
    (0xa59, "ਖ\u0a3c|ਗ\u0a3c|ਜ\u0a3c"), (0xa5e, "ਫ\u0a3c"), (0xb5c, "ଡ\u0b3c|ଢ\u0b3c"),
    (0xe33, "\u0e4dา"), (0xeb3, "\u0ecdາ"), (0xedc, "ຫນ|ຫມ"), (0xf0c, "་"), (0xf43, "ག\u0fb7"),
    (0xf4d, "ཌ\u0fb7"), (0xf52, "ད\u0fb7"), (0xf57, "བ\u0fb7"), (0xf5c, "ཛ\u0fb7"),
    (0xf69, "ཀ\u0fb5"),
    (0xf73, "\u0f71\u0f72|\u0f74|\u0f71\u0f74|\u0fb2\u0f80|\u0fb2\u0f71\u0f80|\u0fb3\u0f80"),
    (0xf79, "\u0fb3\u0f71\u0f80"), (0xf81, "\u0f71\u0f80"), (0xf93, "\u0f92\u0fb7"),
    (0xf9d, "\u0f9c\u0fb7"), (0xfa2, "\u0fa1\u0fb7"), (0xfa7, "\u0fa6\u0fb7"),
    (0xfac, "\u0fab\u0fb7"), (0xfb9, "\u0f90\u0fb5"),
    (0x10a0, "ⴀ|ⴁ|ⴂ|ⴃ|ⴄ|ⴅ|ⴆ|ⴇ|ⴈ|ⴉ|ⴊ|ⴋ|ⴌ|ⴍ|ⴎ|ⴏ|ⴐ|ⴑ|ⴒ|ⴓ|ⴔ|ⴕ|ⴖ|ⴗ|ⴘ|ⴙ|ⴚ|ⴛ|ⴜ|ⴝ|ⴞ|ⴟ|ⴠ|ⴡ|ⴢ|ⴣ|ⴤ|ⴥ|"),
    (0x10c7, "ⴧ"), (0x10cd, "ⴭ"), (0x10fc, "ნ"), (0x115f, "|"), (0x13f8, "Ᏸ|Ᏹ|Ᏺ|Ᏻ|Ᏼ|Ᏽ"),
    (0x17b4, "|"), (0x180b, "||||"), (0x1c80, "в|д|о|с|т|т|ъ|ѣ|ꙋ|\u1c8a"),
    (0x1c90, "ა|ბ|გ|დ|ე|ვ|ზ|თ|ი|კ|ლ|მ|ნ|ო|პ|ჟ|რ|ს|ტ|უ|ფ|ქ|ღ|ყ|შ|ჩ|ც|ძ|წ|ჭ|ხ|ჯ|ჰ|ჱ|ჲ|ჳ|ჴ|ჵ|ჶ"),
    (0x1cb7, "ჷ|ჸ|ჹ|ჺ"), (0x1cbd, "ჽ|ჾ|ჿ"),
    (0x1d2c, "a|æ|b|\u1d2f|d|e|ǝ|g|h|i|j|k|l|m|n|\u1d3b|o|ȣ|p|r|t|u|w|a|ɐ|ɑ|ᴂ|b|d|e|ə|ɛ|ɜ|g"),
    (0x1d4f, "k|m|ŋ|o|ɔ|ᴖ|ᴗ|p|t|u|ᴝ|ɯ|v|ᴥ|β|γ|δ|φ|χ|i|r|u|v|β|γ|ρ|φ|χ"), (0x1d78, "н"),
    (0x1d9b, "ɒ|c|ɕ|ð|ɜ|f|ɟ|ɡ|ɥ|ɨ|ɩ|ɪ|ᵻ|ʝ|ɭ|ᶅ|ʟ|ɱ|ɰ|ɲ|ɳ|ɴ|ɵ|ɸ|ʂ|ʃ|ƫ|ʉ|ʊ|ᴜ|ʋ|ʌ|z|ʐ|ʑ|ʒ|θ"),
    (0x1e00, "ḁ|ḁ|ḃ|ḃ|ḅ|ḅ|ḇ|ḇ|ḉ|ḉ|ḋ|ḋ|ḍ|ḍ|ḏ|ḏ|ḑ|ḑ|ḓ|ḓ|ḕ|ḕ|ḗ|ḗ|ḙ|ḙ|ḛ|ḛ|ḝ|ḝ|ḟ|ḟ|ḡ|ḡ|ḣ|ḣ|ḥ|ḥ|ḧ"),
    (0x1e28, "ḩ|ḩ|ḫ|ḫ|ḭ|ḭ|ḯ|ḯ|ḱ|ḱ|ḳ|ḳ|ḵ|ḵ|ḷ|ḷ|ḹ|ḹ|ḻ|ḻ|ḽ|ḽ|ḿ|ḿ|ṁ|ṁ|ṃ|ṃ|ṅ|ṅ|ṇ|ṇ|ṉ|ṉ|ṋ|ṋ|ṍ|ṍ|ṏ"),
    (0x1e50, "ṑ|ṑ|ṓ|ṓ|ṕ|ṕ|ṗ|ṗ|ṙ|ṙ|ṛ|ṛ|ṝ|ṝ|ṟ|ṟ|ṡ|ṡ|ṣ|ṣ|ṥ|ṥ|ṧ|ṧ|ṩ|ṩ|ṫ|ṫ|ṭ|ṭ|ṯ|ṯ|ṱ|ṱ|ṳ|ṳ|ṵ|ṵ|ṷ"),
    (0x1e78, "ṹ|ṹ|ṻ|ṻ|ṽ|ṽ|ṿ|ṿ|ẁ|ẁ|ẃ|ẃ|ẅ|ẅ|ẇ|ẇ|ẉ|ẉ|ẋ|ẋ|ẍ|ẍ|ẏ|ẏ|ẑ|ẑ|ẓ|ẓ|ẕ"), (0x1e9a, "a\u02be|ṡ"),
    (0x1e9e, "ß|ẟ|ạ|ạ|ả|ả|ấ|ấ|ầ|ầ|ẩ|ẩ|ẫ|ẫ|ậ|ậ|ắ|ắ|ằ|ằ|ẳ|ẳ|ẵ|ẵ|ặ|ặ|ẹ|ẹ|ẻ|ẻ|ẽ|ẽ|ế|ế|ề|ề|ể|ể|ễ"),
    (0x1ec6, "ệ|ệ|ỉ|ỉ|ị|ị|ọ|ọ|ỏ|ỏ|ố|ố|ồ|ồ|ổ|ổ|ỗ|ỗ|ộ|ộ|ớ|ớ|ờ|ờ|ở|ở|ỡ|ỡ|ợ|ợ|ụ|ụ|ủ|ủ|ứ|ứ|ừ|ừ|ử"),
    (0x1eee, "ữ|ữ|ự|ự|ỳ|ỳ|ỵ|ỵ|ỷ|ỷ|ỹ|ỹ|ỻ|ỻ|ỽ|ỽ|ỿ"), (0x1f08, "ἀ|ἁ|ἂ|ἃ|ἄ|ἅ|ἆ|ἇ"),
    (0x1f18, "ἐ|ἑ|ἒ|ἓ|ἔ|ἕ"), (0x1f28, "ἠ|ἡ|ἢ|ἣ|ἤ|ἥ|ἦ|ἧ"), (0x1f38, "ἰ|ἱ|ἲ|ἳ|ἴ|ἵ|ἶ|ἷ"),
    (0x1f48, "ὀ|ὁ|ὂ|ὃ|ὄ|ὅ"), (0x1f59, "ὑ||ὓ||ὕ||ὗ"),
    (0x1f68, "ὠ|ὡ|ὢ|ὣ|ὤ|ὥ|ὦ|ὧ|ὰ|ά|ὲ|έ|ὴ|ή|ὶ|ί|ὸ|ό|ὺ|ύ|ὼ|ώ"),
    (0x1f80, "ἀι|ἁι|ἂι|ἃι|ἄι|ἅι|ἆι|ἇι|ἀι|ἁι|ἂι|ἃι|ἄι|ἅι|ἆι|ἇι|ἠι|ἡι|ἢι|ἣι|ἤι|ἥι|ἦι|ἧι|ἠι|ἡι"),
    (0x1f9a, "ἢι|ἣι|ἤι|ἥι|ἦι|ἧι|ὠι|ὡι|ὢι|ὣι|ὤι|ὥι|ὦι|ὧι|ὠι|ὡι|ὢι|ὣι|ὤι|ὥι|ὦι|ὧι"),
    (0x1fb2, "ὰι|αι|άι"),
    (0x1fb7, "ᾶι|ᾰ|ᾱ|ὰ|ά|αι| \u0313|ι| \u0313| \u0342| \u0308\u0342|ὴι|ηι|ήι"),
    (0x1fc7, "ῆι|ὲ|έ|ὴ|ή|ηι| \u0313\u0300| \u0313\u0301| \u0313\u0342"), (0x1fd3, "ΐ"),
    (0x1fd8, "ῐ|ῑ|ὶ|ί|| \u0314\u0300| \u0314\u0301| \u0314\u0342"), (0x1fe3, "ΰ"),
    (0x1fe8, "ῠ|ῡ|ὺ|ύ|ῥ| \u0308\u0300| \u0308\u0301|`"), (0x1ff2, "ὼι|ωι|ώι"),
    (0x1ff7, "ῶι|ὸ|ό|ὼ|ώ|ωι| \u0301| \u0314|| | | | | | | | | | | |"), (0x2011, "‐"),
    (0x2017, " \u0333"), (0x202f, " "), (0x2033, "′′|′′′|‵|‵‵|‵‵‵"), (0x203c, "!!|‽| \u0305"),
    (0x2047, "??|?!|!?"), (0x2057, "′′′′"), (0x205f, " |||||"), (0x206a, "||||||0|i"),
    (0x2074, "4|5|6|7|8|9|+|−|=|(|)|n|0|1|2|3|4|5|6|7|8|9|+|−|=|(|)||a|e|o|x|ə|h|k|l|m|n|p"),
    (0x209b, "s|t"), (0x20a8, "rs"),
    (0x2100, "a/c|a/s|c|°c|℄|c/o|c/u|ɛ|℈|°f|g|h|h|h|h|ħ|i|i|l|l|℔|n|no"), (0x2119, "p|q|r|r|r"),
    (0x2120, "sm|tel|tm|℣|z|℥|ω|℧|z|℩|k|å|b|c|℮|e|e|f|ⅎ|m|o|\u05d0|\u05d1|\u05d2|\u05d3|i|℺"),
    (0x213b, "fax|π|γ|γ|π|∑"), (0x2145, "d|d|e|i|j"),
    (0x2150, "1⁄7|1⁄9|1⁄10|1⁄3|2⁄3|1⁄5|2⁄5|3⁄5|4⁄5|1⁄6|5⁄6|1⁄8|3⁄8|5⁄8|7⁄8|1⁄|i|ii|iii|iv|v"),
    (0x2165, "vi|vii|viii|ix|x|xi|xii|l|c|d|m|i|ii|iii|iv|v|vi|vii|viii|ix|x|xi|xii|l|c|d|m"),
    (0x2183, "ↄ"), (0x2189, "0⁄3"), (0x222c, "∫∫|∫∫∫|∮|∮∮|∮∮∮"), (0x2329, "〈|〉"),
    (0x2460, "1|2|3|4|5|6|7|8|9|10|11|12|13|14|15|16|17|18|19|20|(1)|(2)|(3)|(4)|(5)|(6)"),
    (0x247a, "(7)|(8)|(9)|(10)|(11)|(12)|(13)|(14)|(15)|(16)|(17)|(18)|(19)|(20)"),
    (0x249c, "(a)|(b)|(c)|(d)|(e)|(f)|(g)|(h)|(i)|(j)|(k)|(l)|(m)|(n)|(o)|(p)|(q)|(r)|(s)"),
    (0x24af, "(t)|(u)|(v)|(w)|(x)|(y)|(z)|a|b|c|d|e|f|g|h|i|j|k|l|m|n|o|p|q|r|s|t|u|v|w|x|y"),
    (0x24cf, "z|a|b|c|d|e|f|g|h|i|j|k|l|m|n|o|p|q|r|s|t|u|v|w|x|y|z|0"), (0x2a0c, "∫∫∫∫"),
    (0x2a74, "::=|==|==="), (0x2adc, "⫝\u0338"),
    (0x2c00, "ⰰ|ⰱ|ⰲ|ⰳ|ⰴ|ⰵ|ⰶ|ⰷ|ⰸ|ⰹ|ⰺ|ⰻ|ⰼ|ⰽ|ⰾ|ⰿ|ⱀ|ⱁ|ⱂ|ⱃ|ⱄ|ⱅ|ⱆ|ⱇ|ⱈ|ⱉ|ⱊ|ⱋ|ⱌ|ⱍ|ⱎ|ⱏ|ⱐ|ⱑ|ⱒ|ⱓ|ⱔ|ⱕ|ⱖ"),
    (0x2c27, "ⱗ|ⱘ|ⱙ|ⱚ|ⱛ|ⱜ|ⱝ|ⱞ|ⱟ"), (0x2c60, "ⱡ|ⱡ|ɫ|ᵽ|ɽ"), (0x2c67, "ⱨ|ⱨ|ⱪ|ⱪ|ⱬ|ⱬ|ɑ|ɱ|ɐ|ɒ|ⱱ|ⱳ"),
    (0x2c75, "ⱶ"),
    (0x2c7c, "j|v|ȿ|ɀ|ⲁ|ⲁ|ⲃ|ⲃ|ⲅ|ⲅ|ⲇ|ⲇ|ⲉ|ⲉ|ⲋ|ⲋ|ⲍ|ⲍ|ⲏ|ⲏ|ⲑ|ⲑ|ⲓ|ⲓ|ⲕ|ⲕ|ⲗ|ⲗ|ⲙ|ⲙ|ⲛ|ⲛ|ⲝ|ⲝ|ⲟ|ⲟ|ⲡ|ⲡ|ⲣ"),
    (0x2ca4, "ⲥ|ⲥ|ⲧ|ⲧ|ⲩ|ⲩ|ⲫ|ⲫ|ⲭ|ⲭ|ⲯ|ⲯ|ⲱ|ⲱ|ⲳ|ⲳ|ⲵ|ⲵ|ⲷ|ⲷ|ⲹ|ⲹ|ⲻ|ⲻ|ⲽ|ⲽ|ⲿ|ⲿ|ⳁ|ⳁ|ⳃ|ⳃ|ⳅ|ⳅ|ⳇ|ⳇ|ⳉ|ⳉ|ⳋ"),
    (0x2ccc, "ⳍ|ⳍ|ⳏ|ⳏ|ⳑ|ⳑ|ⳓ|ⳓ|ⳕ|ⳕ|ⳗ|ⳗ|ⳙ|ⳙ|ⳛ|ⳛ|ⳝ|ⳝ|ⳟ|ⳟ|ⳡ|ⳡ|ⳣ"), (0x2ceb, "ⳬ|ⳬ|ⳮ"), (0x2cf2, "ⳳ"),
    (0x2d6f, "ⵡ"), (0x2e9f, "母"), (0x2ef3, "龟"),
    (0x2f00, "一|丨|丶|丿|乙|亅|二|亠|人|儿|入|八|冂|冖|冫|几|凵|刀|力|勹|匕|匚|匸|十|卜|卩|厂|厶|又|口|囗|土|士|夂|夊|夕|大|女|子"),
    (0x2f27, "宀|寸|小|尢|尸|屮|山|巛|工|己|巾|干|幺|广|廴|廾|弋|弓|彐|彡|彳|心|戈|戶|手|支|攴|文|斗|斤|方|无|日|曰|月|木|欠|止|歹"),
    (0x2f4e, "殳|毋|比|毛|氏|气|水|火|爪|父|爻|爿|片|牙|牛|犬|玄|玉|瓜|瓦|甘|生|用|田|疋|疒|癶|白|皮|皿|目|矛|矢|石|示|禸|禾|穴|立"),
    (0x2f75, "竹|米|糸|缶|网|羊|羽|老|而|耒|耳|聿|肉|臣|自|至|臼|舌|舛|舟|艮|色|艸|虍|虫|血|行|衣|襾|見|角|言|谷|豆|豕|豸|貝|赤|走"),
    (0x2f9c, "足|身|車|辛|辰|辵|邑|酉|釆|里|金|長|門|阜|隶|隹|雨|靑|非|面|革|韋|韭|音|頁|風|飛|食|首|香|馬|骨|高|髟|鬥|鬯|鬲|鬼|魚"),
    (0x2fc3, "鳥|鹵|鹿|麥|麻|黃|黍|黑|黹|黽|鼎|鼓|鼠|鼻|齊|齒|龍|龜|龠"), (0x3000, " |、|."), (0x3036, "〒|〷|十|卄|卅"),
    (0x309b, " \u3099| \u309a"), (0x309f, "より"), (0x30ff, "コト"),
    (0x3131, "\u1100|\u1101|\u11aa|\u1102|\u11ac|\u11ad|\u1103|\u1104|\u1105|\u11b0|\u11b1"),
    (0x313c, "\u11b2|\u11b3|\u11b4|\u11b5|\u111a|\u1106|\u1107|\u1108|\u1121|\u1109|\u110a"),
    (0x3147, "\u110b|\u110c|\u110d|\u110e|\u110f|\u1110|\u1111|\u1112|\u1161|\u1162|\u1163"),
    (0x3152, "\u1164|\u1165|\u1166|\u1167|\u1168|\u1169|\u116a|\u116b|\u116c|\u116d|\u116e"),
    (0x315d, "\u116f|\u1170|\u1171|\u1172|\u1173|\u1174|\u1175||\u1114|\u1115|\u11c7|\u11c8"),
    (0x3169, "\u11cc|\u11ce|\u11d3|\u11d7|\u11d9|\u111c|\u11dd|\u11df|\u111d|\u111e|\u1120"),
    (0x3174, "\u1122|\u1123|\u1127|\u1129|\u112b|\u112c|\u112d|\u112e|\u112f|\u1132|\u1136"),
    (0x317f, "\u1140|\u1147|\u114c|\u11f1|\u11f2|\u1157|\u1158|\u1159|\u1184|\u1185|\u1188"),
    (0x318a, "\u1191|\u1192|\u1194|\u119e|\u11a1"), (0x3192, "一|二|三|四|上|中|下|甲|乙|丙|丁|天|地|人"),
    (0x3200, "(\u1100)|(\u1102)|(\u1103)|(\u1105)|(\u1106)|(\u1107)|(\u1109)|(\u110b)"),
    (0x3208, "(\u110c)|(\u110e)|(\u110f)|(\u1110)|(\u1111)|(\u1112)|(가)|(나)|(다)|(라)|(마)|(바)"),
    (0x3214, "(사)|(아)|(자)|(차)|(카)|(타)|(파)|(하)|(주)|(오전)|(오후)||(一)|(二)|(三)|(四)|(五)|(六)|(七)"),
    (0x3227, "(八)|(九)|(十)|(月)|(火)|(水)|(木)|(金)|(土)|(日)|(株)|(有)|(社)|(名)|(特)|(財)|(祝)|(労)|(代)"),
    (0x323a, "(呼)|(学)|(監)|(企)|(資)|(協)|(祭)|(休)|(自)|(至)|問|幼|文|箏"),
    (0x3250, "pte|21|22|23|24|25|26|27|28|29|30|31|32|33|34|35|\u1100|\u1102|\u1103|\u1105"),
    (0x3264, "\u1106|\u1107|\u1109|\u110b|\u110c|\u110e|\u110f|\u1110|\u1111|\u1112|가|나|다|라"),
    (0x3272, "마|바|사|아|자|차|카|타|파|하|참고|주의|우|㉿|一|二|三|四|五|六|七|八|九|十|月|火|水|木|金|土|日|株|有|社|名|特|財|祝"),
    (0x3298, "労|秘|男|女|適|優|印|注|項|休|写|正|上|中|下|左|右|医|宗|学|監|企|資|協|夜|36|37|38|39|40|41|42|43|44"),
    (0x32ba, "45|46|47|48|49|50|1月|2月|3月|4月|5月|6月|7月|8月|9月|10月|11月|12月|hg|erg|ev|ltd|ア|イ|ウ"),
    (0x32d3, "エ|オ|カ|キ|ク|ケ|コ|サ|シ|ス|セ|ソ|タ|チ|ツ|テ|ト|ナ|ニ|ヌ|ネ|ノ|ハ|ヒ|フ|ヘ|ホ|マ|ミ|ム|メ|モ|ヤ|ユ|ヨ|ラ|リ|ル|レ"),
    (0x32fa, "ロ|ワ|ヰ|ヱ|ヲ|令和|アパ\u30fcト|アルファ|アンペア|ア\u30fcル|イニング|インチ|ウォン|エスク\u30fcド"),
    (0x3308, "エ\u30fcカ\u30fc|オンス|オ\u30fcム|カイリ|カラット|カロリ\u30fc|ガロン|ガンマ|ギガ|ギニ\u30fc|キュリ\u30fc"),
    (0x3313, "ギルダ\u30fc|キロ|キログラム|キロメ\u30fcトル|キロワット|グラム|グラムトン|クルゼイロ|クロ\u30fcネ|ケ\u30fcス|コルナ"),
    (0x331e, "コ\u30fcポ|サイクル|サンチ\u30fcム|シリング|センチ|セント|ダ\u30fcス|デシ|ドル|トン|ナノ|ノット|ハイツ|パ\u30fcセント"),
    (0x332c, "パ\u30fcツ|バ\u30fcレル|ピアストル|ピクル|ピコ|ビル|ファラッド|フィ\u30fcト|ブッシェル|フラン|ヘクタ\u30fcル|ペソ"),
    (0x3338, "ペニヒ|ヘルツ|ペンス|ペ\u30fcジ|ベ\u30fcタ|ポイント|ボルト|ホン|ポンド|ホ\u30fcル|ホ\u30fcン|マイクロ|マイル|マッハ"),
    (0x3346, "マルク|マンション|ミクロン|ミリ|ミリバ\u30fcル|メガ|メガトン|メ\u30fcトル|ヤ\u30fcド|ヤ\u30fcル|ユアン|リットル|リラ"),
    (0x3353, "ルピ\u30fc|ル\u30fcブル|レム|レントゲン|ワット|0点|1点|2点|3点|4点|5点|6点|7点|8点|9点|10点|11点|12点|13点"),
    (0x3366, "14点|15点|16点|17点|18点|19点|20点|21点|22点|23点|24点|hpa|da|au|bar|ov|pc|dm|dm2|dm3|iu"),
    (0x337b, "平成|昭和|大正|明治|株式会社|pa|na|μa|ma|ka|kb|mb|gb|cal|kcal|pf|nf|μf|μg|mg|kg|hz|khz"),
    (0x3392, "mhz|ghz|thz|μl|ml|dl|kl|fm|nm|μm|mm|cm|km|mm2|cm2|m2|km2|mm3|cm3|m3|km3|m∕s"),
    (0x33a8, "m∕s2|pa|kpa|mpa|gpa|rad|rad∕s|rad∕s2|ps|ns|μs|ms|pv|nv|μv|mv|kv|mv|pw|nw|μw"),
    (0x33bd, "mw|kw|mw|kω|mω||bq|cc|cd|c∕kg||db|gy|ha|hp|in|kk|km|kt|lm|ln|log|lx|mb|mil"),
    (0x33d6, "mol|ph||ppm|pr|sr|sv|wb|v∕m|a∕m|1日|2日|3日|4日|5日|6日|7日|8日|9日|10日|11日|12日|13日"),
    (0x33ed, "14日|15日|16日|17日|18日|19日|20日|21日|22日|23日|24日|25日|26日|27日|28日|29日|30日|31日|gal"),
    (0xa640, "ꙁ|ꙁ|ꙃ|ꙃ|ꙅ|ꙅ|ꙇ|ꙇ|ꙉ|ꙉ|ꙋ|ꙋ|ꙍ|ꙍ|ꙏ|ꙏ|ꙑ|ꙑ|ꙓ|ꙓ|ꙕ|ꙕ|ꙗ|ꙗ|ꙙ|ꙙ|ꙛ|ꙛ|ꙝ|ꙝ|ꙟ|ꙟ|ꙡ|ꙡ|ꙣ|ꙣ|ꙥ|ꙥ|ꙧ"),
    (0xa668, "ꙩ|ꙩ|ꙫ|ꙫ|ꙭ"), (0xa680, "ꚁ|ꚁ|ꚃ|ꚃ|ꚅ|ꚅ|ꚇ|ꚇ|ꚉ|ꚉ|ꚋ|ꚋ|ꚍ|ꚍ|ꚏ|ꚏ|ꚑ|ꚑ|ꚓ|ꚓ|ꚕ|ꚕ|ꚗ|ꚗ|ꚙ|ꚙ|ꚛ|ꚛ|ъ|ь"),
    (0xa722, "ꜣ|ꜣ|ꜥ|ꜥ|ꜧ|ꜧ|ꜩ|ꜩ|ꜫ|ꜫ|ꜭ|ꜭ|ꜯ"),
    (0xa732, "ꜳ|ꜳ|ꜵ|ꜵ|ꜷ|ꜷ|ꜹ|ꜹ|ꜻ|ꜻ|ꜽ|ꜽ|ꜿ|ꜿ|ꝁ|ꝁ|ꝃ|ꝃ|ꝅ|ꝅ|ꝇ|ꝇ|ꝉ|ꝉ|ꝋ|ꝋ|ꝍ|ꝍ|ꝏ|ꝏ|ꝑ|ꝑ|ꝓ|ꝓ|ꝕ|ꝕ|ꝗ|ꝗ|ꝙ"),
    (0xa75a, "ꝛ|ꝛ|ꝝ|ꝝ|ꝟ|ꝟ|ꝡ|ꝡ|ꝣ|ꝣ|ꝥ|ꝥ|ꝧ|ꝧ|ꝩ|ꝩ|ꝫ|ꝫ|ꝭ|ꝭ|ꝯ|ꝯ|ꝯ"),
    (0xa779, "ꝺ|ꝺ|ꝼ|ꝼ|ᵹ|ꝿ|ꝿ|ꞁ|ꞁ|ꞃ|ꞃ|ꞅ|ꞅ|ꞇ"), (0xa78b, "ꞌ|ꞌ|ɥ"), (0xa790, "ꞑ|ꞑ|ꞓ"),
    (0xa796, "ꞗ|ꞗ|ꞙ|ꞙ|ꞛ|ꞛ|ꞝ|ꞝ|ꞟ|ꞟ|ꞡ|ꞡ|ꞣ|ꞣ|ꞥ|ꞥ|ꞧ|ꞧ|ꞩ|ꞩ|ɦ|ɜ|ɡ|ɬ|ɪ|ꞯ|ʞ|ʇ|ʝ|ꭓ|ꞵ|ꞵ|ꞷ|ꞷ|ꞹ|ꞹ|ꞻ|ꞻ|ꞽ"),
    (0xa7be, "ꞿ|ꞿ|ꟁ|ꟁ|ꟃ|ꟃ|ꞔ|ʂ|ᶎ|ꟈ|ꟈ|ꟊ|ꟊ|ɤ|\ua7cd|\ua7cd|\ua7cf|\ua7cf|ꟑ|ꟑ|ꟓ|ꟓ|ꟕ|ꟕ|ꟗ|ꟗ|ꟙ|ꟙ"),
    (0xa7da, "\ua7db|\ua7db|ƛ"), (0xa7f1, "s|c|f|q|ꟶ"), (0xa7f8, "ħ|œ"), (0xab5c, "ꜧ|ꬷ|ɫ|ꭒ"),
    (0xab69, "ʍ"),
    (0xab70, "Ꭰ|Ꭱ|Ꭲ|Ꭳ|Ꭴ|Ꭵ|Ꭶ|Ꭷ|Ꭸ|Ꭹ|Ꭺ|Ꭻ|Ꭼ|Ꭽ|Ꭾ|Ꭿ|Ꮀ|Ꮁ|Ꮂ|Ꮃ|Ꮄ|Ꮅ|Ꮆ|Ꮇ|Ꮈ|Ꮉ|Ꮊ|Ꮋ|Ꮌ|Ꮍ|Ꮎ|Ꮏ|Ꮐ|Ꮑ|Ꮒ|Ꮓ|Ꮔ|Ꮕ|Ꮖ"),
    (0xab97, "Ꮗ|Ꮘ|Ꮙ|Ꮚ|Ꮛ|Ꮜ|Ꮝ|Ꮞ|Ꮟ|Ꮠ|Ꮡ|Ꮢ|Ꮣ|Ꮤ|Ꮥ|Ꮦ|Ꮧ|Ꮨ|Ꮩ|Ꮪ|Ꮫ|Ꮬ|Ꮭ|Ꮮ|Ꮯ|Ꮰ|Ꮱ|Ꮲ|Ꮳ|Ꮴ|Ꮵ|Ꮶ|Ꮷ|Ꮸ|Ꮹ|Ꮺ|Ꮻ|Ꮼ|Ꮽ"),
    (0xabbe, "Ꮾ|Ꮿ"),
    (0xf900, "豈|更|車|賈|滑|串|句|龜|龜|契|金|喇|奈|懶|癩|羅|蘿|螺|裸|邏|樂|洛|烙|珞|落|酪|駱|亂|卵|欄|爛|蘭|鸞|嵐|濫|藍|襤|拉|臘"),
    (0xf927, "蠟|廊|朗|浪|狼|郎|來|冷|勞|擄|櫓|爐|盧|老|蘆|虜|路|露|魯|鷺|碌|祿|綠|菉|錄|鹿|論|壟|弄|籠|聾|牢|磊|賂|雷|壘|屢|樓|淚"),
    (0xf94e, "漏|累|縷|陋|勒|肋|凜|凌|稜|綾|菱|陵|讀|拏|樂|諾|丹|寧|怒|率|異|北|磻|便|復|不|泌|數|索|參|塞|省|葉|說|殺|辰|沈|拾|若"),
    (0xf975, "掠|略|亮|兩|凉|梁|糧|良|諒|量|勵|呂|女|廬|旅|濾|礪|閭|驪|麗|黎|力|曆|歷|轢|年|憐|戀|撚|漣|煉|璉|秊|練|聯|輦|蓮|連|鍊"),
    (0xf99c, "列|劣|咽|烈|裂|說|廉|念|捻|殮|簾|獵|令|囹|寧|嶺|怜|玲|瑩|羚|聆|鈴|零|靈|領|例|禮|醴|隸|惡|了|僚|寮|尿|料|樂|燎|療|蓼"),
    (0xf9c3, "遼|龍|暈|阮|劉|杻|柳|流|溜|琉|留|硫|紐|類|六|戮|陸|倫|崙|淪|輪|律|慄|栗|率|隆|利|吏|履|易|李|梨|泥|理|痢|罹|裏|裡|里"),
    (0xf9ea, "離|匿|溺|吝|燐|璘|藺|隣|鱗|麟|林|淋|臨|立|笠|粒|狀|炙|識|什|茶|刺|切|度|拓|糖|宅|洞|暴|輻|行|降|見|廓|兀|嗀"),
    (0xfa10, "塚|﨑|晴"), (0xfa15, "凞|猪|益|礼|神|祥|福|靖|精|羽|﨟|蘒|﨡|諸"), (0xfa25, "逸|都"),
    (0xfa2a, "飯|飼|館|鶴|郞|隷|侮|僧|免|勉|勤|卑|喝|嘆|器|塀|墨|層|屮|悔|慨|憎|懲|敏|既|暑|梅|海|渚|漢|煮|爫|琢|碑|社|祉|祈|祐|祖"),
    (0xfa51, "祝|禍|禎|穀|突|節|練|縉|繁|署|者|臭|艹|艹|著|褐|視|謁|謹|賓|贈|辶|逸|難|響|頻|恵|𤋮|舘"),
    (0xfa70, "並|况|全|侀|充|冀|勇|勺|喝|啕|喙|嗢|塚|墳|奄|奔|婢|嬨|廒|廙|彩|徭|惘|慎|愈|憎|慠|懲|戴|揄|搜|摒|敖|晴|朗|望|杖|歹|殺"),
    (0xfa97, "流|滛|滋|漢|瀞|煮|瞧|爵|犯|猪|瑱|甆|画|瘝|瘟|益|盛|直|睊|着|磌|窱|節|类|絛|練|缾|者|荒|華|蝹|襁|覆|視|調|諸|請|謁|諾"),
    (0xfabe, "諭|謹|變|贈|輸|遲|醙|鉶|陼|難|靖|韛|響|頋|頻|鬒|龜|𢡊|𢡄|𣏕|㮝|䀘|䀹|𥉉|𥳐|𧻓|齃|龎"),
    (0xfb00, "ff|fi|fl|ffi|ffl|st|st"), (0xfb13, "մն|մե|մի|վն|մխ"),
    (0xfb1d, "\u05d9\u05b4|\ufb1e|\u05f2\u05b7|\u05e2|\u05d0|\u05d3|\u05d4|\u05db|\u05dc"),
    (0xfb26, "\u05dd|\u05e8|\u05ea|+|\u05e9\u05c1|\u05e9\u05c2|\u05e9\u05bc\u05c1"),
    (0xfb2d, "\u05e9\u05bc\u05c2|\u05d0\u05b7|\u05d0\u05b8|\u05d0\u05bc|\u05d1\u05bc"),
    (0xfb32, "\u05d2\u05bc|\u05d3\u05bc|\u05d4\u05bc|\u05d5\u05bc|\u05d6\u05bc|"),
    (0xfb38, "\u05d8\u05bc|\u05d9\u05bc|\u05da\u05bc|\u05db\u05bc|\u05dc\u05bc|"),
    (0xfb3e, "\u05de\u05bc||\u05e0\u05bc|\u05e1\u05bc||\u05e3\u05bc|\u05e4\u05bc|"),
    (0xfb46, "\u05e6\u05bc|\u05e7\u05bc|\u05e8\u05bc|\u05e9\u05bc|\u05ea\u05bc|\u05d5\u05b9"),
    (0xfb4c, "\u05d1\u05bf|\u05db\u05bf|\u05e4\u05bf|\u05d0\u05dc|\u0671|\u0671|\u067b"),
    (0xfb53, "\u067b|\u067b|\u067b|\u067e|\u067e|\u067e|\u067e|\u0680|\u0680|\u0680|\u0680"),
    (0xfb5e, "\u067a|\u067a|\u067a|\u067a|\u067f|\u067f|\u067f|\u067f|\u0679|\u0679|\u0679"),
    (0xfb69, "\u0679|\u06a4|\u06a4|\u06a4|\u06a4|\u06a6|\u06a6|\u06a6|\u06a6|\u0684|\u0684"),
    (0xfb74, "\u0684|\u0684|\u0683|\u0683|\u0683|\u0683|\u0686|\u0686|\u0686|\u0686|\u0687"),
    (0xfb7f, "\u0687|\u0687|\u0687|\u068d|\u068d|\u068c|\u068c|\u068e|\u068e|\u0688|\u0688"),
    (0xfb8a, "\u0698|\u0698|\u0691|\u0691|\u06a9|\u06a9|\u06a9|\u06a9|\u06af|\u06af|\u06af"),
    (0xfb95, "\u06af|\u06b3|\u06b3|\u06b3|\u06b3|\u06b1|\u06b1|\u06b1|\u06b1|\u06ba|\u06ba"),
    (0xfba0, "\u06bb|\u06bb|\u06bb|\u06bb|\u06c0|\u06c0|\u06c1|\u06c1|\u06c1|\u06c1|\u06be"),
    (0xfbab, "\u06be|\u06be|\u06be|\u06d2|\u06d2|\u06d3|\u06d3"),
    (0xfbd3, "\u06ad|\u06ad|\u06ad|\u06ad|\u06c7|\u06c7|\u06c6|\u06c6|\u06c8|\u06c8"),
    (0xfbdd, "\u06c7\u0674|\u06cb|\u06cb|\u06c5|\u06c5|\u06c9|\u06c9|\u06d0|\u06d0|\u06d0"),
    (0xfbe7, "\u06d0|\u0649|\u0649|\u0626\u0627|\u0626\u0627|\u0626\u06d5|\u0626\u06d5"),
    (0xfbee, "\u0626\u0648|\u0626\u0648|\u0626\u06c7|\u0626\u06c7|\u0626\u06c6|\u0626\u06c6"),
    (0xfbf4, "\u0626\u06c8|\u0626\u06c8|\u0626\u06d0|\u0626\u06d0|\u0626\u06d0|\u0626\u0649"),
    (0xfbfa, "\u0626\u0649|\u0626\u0649|\u06cc|\u06cc|\u06cc|\u06cc|\u0626\u062c"),
    (0xfc01, "\u0626\u062d|\u0626\u0645|\u0626\u0649|\u0626\u064a|\u0628\u062c|\u0628\u062d"),
    (0xfc07, "\u0628\u062e|\u0628\u0645|\u0628\u0649|\u0628\u064a|\u062a\u062c|\u062a\u062d"),
    (0xfc0d, "\u062a\u062e|\u062a\u0645|\u062a\u0649|\u062a\u064a|\u062b\u062c|\u062b\u0645"),
    (0xfc13, "\u062b\u0649|\u062b\u064a|\u062c\u062d|\u062c\u0645|\u062d\u062c|\u062d\u0645"),
    (0xfc19, "\u062e\u062c|\u062e\u062d|\u062e\u0645|\u0633\u062c|\u0633\u062d|\u0633\u062e"),
    (0xfc1f, "\u0633\u0645|\u0635\u062d|\u0635\u0645|\u0636\u062c|\u0636\u062d|\u0636\u062e"),
    (0xfc25, "\u0636\u0645|\u0637\u062d|\u0637\u0645|\u0638\u0645|\u0639\u062c|\u0639\u0645"),
    (0xfc2b, "\u063a\u062c|\u063a\u0645|\u0641\u062c|\u0641\u062d|\u0641\u062e|\u0641\u0645"),
    (0xfc31, "\u0641\u0649|\u0641\u064a|\u0642\u062d|\u0642\u0645|\u0642\u0649|\u0642\u064a"),
    (0xfc37, "\u0643\u0627|\u0643\u062c|\u0643\u062d|\u0643\u062e|\u0643\u0644|\u0643\u0645"),
    (0xfc3d, "\u0643\u0649|\u0643\u064a|\u0644\u062c|\u0644\u062d|\u0644\u062e|\u0644\u0645"),
    (0xfc43, "\u0644\u0649|\u0644\u064a|\u0645\u062c|\u0645\u062d|\u0645\u062e|\u0645\u0645"),
    (0xfc49, "\u0645\u0649|\u0645\u064a|\u0646\u062c|\u0646\u062d|\u0646\u062e|\u0646\u0645"),
    (0xfc4f, "\u0646\u0649|\u0646\u064a|\u0647\u062c|\u0647\u0645|\u0647\u0649|\u0647\u064a"),
    (0xfc55, "\u064a\u062c|\u064a\u062d|\u064a\u062e|\u064a\u0645|\u064a\u0649|\u064a\u064a"),
    (0xfc5b, "\u0630\u0670|\u0631\u0670|\u0649\u0670| \u064c\u0651| \u064d\u0651"),
    (0xfc60, " \u064e\u0651| \u064f\u0651| \u0650\u0651| \u0651\u0670|\u0626\u0631"),
    (0xfc65, "\u0626\u0632|\u0626\u0645|\u0626\u0646|\u0626\u0649|\u0626\u064a|\u0628\u0631"),
    (0xfc6b, "\u0628\u0632|\u0628\u0645|\u0628\u0646|\u0628\u0649|\u0628\u064a|\u062a\u0631"),
    (0xfc71, "\u062a\u0632|\u062a\u0645|\u062a\u0646|\u062a\u0649|\u062a\u064a|\u062b\u0631"),
    (0xfc77, "\u062b\u0632|\u062b\u0645|\u062b\u0646|\u062b\u0649|\u062b\u064a|\u0641\u0649"),
    (0xfc7d, "\u0641\u064a|\u0642\u0649|\u0642\u064a|\u0643\u0627|\u0643\u0644|\u0643\u0645"),
    (0xfc83, "\u0643\u0649|\u0643\u064a|\u0644\u0645|\u0644\u0649|\u0644\u064a|\u0645\u0627"),
    (0xfc89, "\u0645\u0645|\u0646\u0631|\u0646\u0632|\u0646\u0645|\u0646\u0646|\u0646\u0649"),
    (0xfc8f, "\u0646\u064a|\u0649\u0670|\u064a\u0631|\u064a\u0632|\u064a\u0645|\u064a\u0646"),
    (0xfc95, "\u064a\u0649|\u064a\u064a|\u0626\u062c|\u0626\u062d|\u0626\u062e|\u0626\u0645"),
    (0xfc9b, "\u0626\u0647|\u0628\u062c|\u0628\u062d|\u0628\u062e|\u0628\u0645|\u0628\u0647"),
    (0xfca1, "\u062a\u062c|\u062a\u062d|\u062a\u062e|\u062a\u0645|\u062a\u0647|\u062b\u0645"),
    (0xfca7, "\u062c\u062d|\u062c\u0645|\u062d\u062c|\u062d\u0645|\u062e\u062c|\u062e\u0645"),
    (0xfcad, "\u0633\u062c|\u0633\u062d|\u0633\u062e|\u0633\u0645|\u0635\u062d|\u0635\u062e"),
    (0xfcb3, "\u0635\u0645|\u0636\u062c|\u0636\u062d|\u0636\u062e|\u0636\u0645|\u0637\u062d"),
    (0xfcb9, "\u0638\u0645|\u0639\u062c|\u0639\u0645|\u063a\u062c|\u063a\u0645|\u0641\u062c"),
    (0xfcbf, "\u0641\u062d|\u0641\u062e|\u0641\u0645|\u0642\u062d|\u0642\u0645|\u0643\u062c"),
    (0xfcc5, "\u0643\u062d|\u0643\u062e|\u0643\u0644|\u0643\u0645|\u0644\u062c|\u0644\u062d"),
    (0xfccb, "\u0644\u062e|\u0644\u0645|\u0644\u0647|\u0645\u062c|\u0645\u062d|\u0645\u062e"),
    (0xfcd1, "\u0645\u0645|\u0646\u062c|\u0646\u062d|\u0646\u062e|\u0646\u0645|\u0646\u0647"),
    (0xfcd7, "\u0647\u062c|\u0647\u0645|\u0647\u0670|\u064a\u062c|\u064a\u062d|\u064a\u062e"),
    (0xfcdd, "\u064a\u0645|\u064a\u0647|\u0626\u0645|\u0626\u0647|\u0628\u0645|\u0628\u0647"),
    (0xfce3, "\u062a\u0645|\u062a\u0647|\u062b\u0645|\u062b\u0647|\u0633\u0645|\u0633\u0647"),
    (0xfce9, "\u0634\u0645|\u0634\u0647|\u0643\u0644|\u0643\u0645|\u0644\u0645|\u0646\u0645"),
    (0xfcef, "\u0646\u0647|\u064a\u0645|\u064a\u0647|\u0640\u064e\u0651|\u0640\u064f\u0651"),
    (0xfcf4, "\u0640\u0650\u0651|\u0637\u0649|\u0637\u064a|\u0639\u0649|\u0639\u064a"),
    (0xfcf9, "\u063a\u0649|\u063a\u064a|\u0633\u0649|\u0633\u064a|\u0634\u0649|\u0634\u064a"),
    (0xfcff, "\u062d\u0649|\u062d\u064a|\u062c\u0649|\u062c\u064a|\u062e\u0649|\u062e\u064a"),
    (0xfd05, "\u0635\u0649|\u0635\u064a|\u0636\u0649|\u0636\u064a|\u0634\u062c|\u0634\u062d"),
    (0xfd0b, "\u0634\u062e|\u0634\u0645|\u0634\u0631|\u0633\u0631|\u0635\u0631|\u0636\u0631"),
    (0xfd11, "\u0637\u0649|\u0637\u064a|\u0639\u0649|\u0639\u064a|\u063a\u0649|\u063a\u064a"),
    (0xfd17, "\u0633\u0649|\u0633\u064a|\u0634\u0649|\u0634\u064a|\u062d\u0649|\u062d\u064a"),
    (0xfd1d, "\u062c\u0649|\u062c\u064a|\u062e\u0649|\u062e\u064a|\u0635\u0649|\u0635\u064a"),
    (0xfd23, "\u0636\u0649|\u0636\u064a|\u0634\u062c|\u0634\u062d|\u0634\u062e|\u0634\u0645"),
    (0xfd29, "\u0634\u0631|\u0633\u0631|\u0635\u0631|\u0636\u0631|\u0634\u062c|\u0634\u062d"),
    (0xfd2f, "\u0634\u062e|\u0634\u0645|\u0633\u0647|\u0634\u0647|\u0637\u0645|\u0633\u062c"),
    (0xfd35, "\u0633\u062d|\u0633\u062e|\u0634\u062c|\u0634\u062d|\u0634\u062e|\u0637\u0645"),
    (0xfd3b, "\u0638\u0645|\u0627\u064b|\u0627\u064b"),
    (0xfd50, "\u062a\u062c\u0645|\u062a\u062d\u062c|\u062a\u062d\u062c|\u062a\u062d\u0645"),
    (0xfd54, "\u062a\u062e\u0645|\u062a\u0645\u062c|\u062a\u0645\u062d|\u062a\u0645\u062e"),
    (0xfd58, "\u062c\u0645\u062d|\u062c\u0645\u062d|\u062d\u0645\u064a|\u062d\u0645\u0649"),
    (0xfd5c, "\u0633\u062d\u062c|\u0633\u062c\u062d|\u0633\u062c\u0649|\u0633\u0645\u062d"),
    (0xfd60, "\u0633\u0645\u062d|\u0633\u0645\u062c|\u0633\u0645\u0645|\u0633\u0645\u0645"),
    (0xfd64, "\u0635\u062d\u062d|\u0635\u062d\u062d|\u0635\u0645\u0645|\u0634\u062d\u0645"),
    (0xfd68, "\u0634\u062d\u0645|\u0634\u062c\u064a|\u0634\u0645\u062e|\u0634\u0645\u062e"),
    (0xfd6c, "\u0634\u0645\u0645|\u0634\u0645\u0645|\u0636\u062d\u0649|\u0636\u062e\u0645"),
    (0xfd70, "\u0636\u062e\u0645|\u0637\u0645\u062d|\u0637\u0645\u062d|\u0637\u0645\u0645"),
    (0xfd74, "\u0637\u0645\u064a|\u0639\u062c\u0645|\u0639\u0645\u0645|\u0639\u0645\u0645"),
    (0xfd78, "\u0639\u0645\u0649|\u063a\u0645\u0645|\u063a\u0645\u064a|\u063a\u0645\u0649"),
    (0xfd7c, "\u0641\u062e\u0645|\u0641\u062e\u0645|\u0642\u0645\u062d|\u0642\u0645\u0645"),
    (0xfd80, "\u0644\u062d\u0645|\u0644\u062d\u064a|\u0644\u062d\u0649|\u0644\u062c\u062c"),
    (0xfd84, "\u0644\u062c\u062c|\u0644\u062e\u0645|\u0644\u062e\u0645|\u0644\u0645\u062d"),
    (0xfd88, "\u0644\u0645\u062d|\u0645\u062d\u062c|\u0645\u062d\u0645|\u0645\u062d\u064a"),
    (0xfd8c, "\u0645\u062c\u062d|\u0645\u062c\u0645|\u0645\u062e\u062c|\u0645\u062e\u0645"),
    (0xfd92, "\u0645\u062c\u062e|\u0647\u0645\u062c|\u0647\u0645\u0645|\u0646\u062d\u0645"),
    (0xfd96, "\u0646\u062d\u0649|\u0646\u062c\u0645|\u0646\u062c\u0645|\u0646\u062c\u0649"),
    (0xfd9a, "\u0646\u0645\u064a|\u0646\u0645\u0649|\u064a\u0645\u0645|\u064a\u0645\u0645"),
    (0xfd9e, "\u0628\u062e\u064a|\u062a\u062c\u064a|\u062a\u062c\u0649|\u062a\u062e\u064a"),
    (0xfda2, "\u062a\u062e\u0649|\u062a\u0645\u064a|\u062a\u0645\u0649|\u062c\u0645\u064a"),
    (0xfda6, "\u062c\u062d\u0649|\u062c\u0645\u0649|\u0633\u062e\u0649|\u0635\u062d\u064a"),
    (0xfdaa, "\u0634\u062d\u064a|\u0636\u062d\u064a|\u0644\u062c\u064a|\u0644\u0645\u064a"),
    (0xfdae, "\u064a\u062d\u064a|\u064a\u062c\u064a|\u064a\u0645\u064a|\u0645\u0645\u064a"),
    (0xfdb2, "\u0642\u0645\u064a|\u0646\u062d\u064a|\u0642\u0645\u062d|\u0644\u062d\u0645"),
    (0xfdb6, "\u0639\u0645\u064a|\u0643\u0645\u064a|\u0646\u062c\u062d|\u0645\u062e\u064a"),
    (0xfdba, "\u0644\u062c\u0645|\u0643\u0645\u0645|\u0644\u062c\u0645|\u0646\u062c\u062d"),
    (0xfdbe, "\u062c\u062d\u064a|\u062d\u062c\u064a|\u0645\u062c\u064a|\u0641\u0645\u064a"),
    (0xfdc2, "\u0628\u062d\u064a|\u0643\u0645\u0645|\u0639\u062c\u0645|\u0635\u0645\u0645"),
    (0xfdc6, "\u0633\u062e\u064a|\u0646\u062c\u064a"),
    (0xfdf0, "\u0635\u0644\u06d2|\u0642\u0644\u06d2|\u0627\u0644\u0644\u0647"),
    (0xfdf3, "\u0627\u0643\u0628\u0631|\u0645\u062d\u0645\u062f|\u0635\u0644\u0639\u0645"),
    (0xfdf6, "\u0631\u0633\u0648\u0644|\u0639\u0644\u064a\u0647|\u0648\u0633\u0644\u0645"),
    (0xfdf9, "\u0635\u0644\u0649"),
    (0xfdfa, "\u0635\u0644\u0649 \u0627\u0644\u0644\u0647 \u0639\u0644\u064a\u0647 \u0648\u0633\u0644\u0645"),
    (0xfdfb, "\u062c\u0644 \u062c\u0644\u0627\u0644\u0647|\u0631\u06cc\u0627\u0644"),
    (0xfe00, "||||||||||||||||,|、||:|;|!|?|〖|〗"),
    (0xfe31, "—|–|_|_|(|)|\x7b|\x7d|〔|〕|【|】|《|》|〈|〉|「|」|『|』"),
    (0xfe47, "[|]| \u0305| \u0305| \u0305| \u0305|_|_|_|,|、"),
    (0xfe54, ";|:|?|!|—|(|)|\x7b|\x7d|〔|〕|#|&|*|+|-|<|>|=||\\|$|%|@"),
    (0xfe70, " \u064b|\u0640\u064b| \u064c|\ufe73| \u064d|| \u064e|\u0640\u064e| \u064f"),
    (0xfe79, "\u0640\u064f| \u0650|\u0640\u0650| \u0651|\u0640\u0651| \u0652|\u0640\u0652"),
    (0xfe80, "\u0621|\u0622|\u0622|\u0623|\u0623|\u0624|\u0624|\u0625|\u0625|\u0626|\u0626"),
    (0xfe8b, "\u0626|\u0626|\u0627|\u0627|\u0628|\u0628|\u0628|\u0628|\u0629|\u0629|\u062a"),
    (0xfe96, "\u062a|\u062a|\u062a|\u062b|\u062b|\u062b|\u062b|\u062c|\u062c|\u062c|\u062c"),
    (0xfea1, "\u062d|\u062d|\u062d|\u062d|\u062e|\u062e|\u062e|\u062e|\u062f|\u062f|\u0630"),
    (0xfeac, "\u0630|\u0631|\u0631|\u0632|\u0632|\u0633|\u0633|\u0633|\u0633|\u0634|\u0634"),
    (0xfeb7, "\u0634|\u0634|\u0635|\u0635|\u0635|\u0635|\u0636|\u0636|\u0636|\u0636|\u0637"),
    (0xfec2, "\u0637|\u0637|\u0637|\u0638|\u0638|\u0638|\u0638|\u0639|\u0639|\u0639|\u0639"),
    (0xfecd, "\u063a|\u063a|\u063a|\u063a|\u0641|\u0641|\u0641|\u0641|\u0642|\u0642|\u0642"),
    (0xfed8, "\u0642|\u0643|\u0643|\u0643|\u0643|\u0644|\u0644|\u0644|\u0644|\u0645|\u0645"),
    (0xfee3, "\u0645|\u0645|\u0646|\u0646|\u0646|\u0646|\u0647|\u0647|\u0647|\u0647|\u0648"),
    (0xfeee, "\u0648|\u0649|\u0649|\u064a|\u064a|\u064a|\u064a|\u0644\u0622|\u0644\u0622"),
    (0xfef7, "\u0644\u0623|\u0644\u0623|\u0644\u0625|\u0644\u0625|\u0644\u0627|\u0644\u0627"),
    (0xfeff, ""),
    (0xff5f, "⦅|⦆|.|「|」|、|・|ヲ|ァ|ィ|ゥ|ェ|ォ|ャ|ュ|ョ|ッ|\u30fc|ア|イ|ウ|エ|オ|カ|キ|ク|ケ|コ|サ|シ|ス|セ|ソ|タ|チ|ツ"),
    (0xff83, "テ|ト|ナ|ニ|ヌ|ネ|ノ|ハ|ヒ|フ|ヘ|ホ|マ|ミ|ム|メ|モ|ヤ|ユ|ヨ|ラ|リ|ル|レ|ロ|ワ|ン|\u3099|\u309a||\u1100"),
    (0xffa2, "\u1101|\u11aa|\u1102|\u11ac|\u11ad|\u1103|\u1104|\u1105|\u11b0|\u11b1|\u11b2"),
    (0xffad, "\u11b3|\u11b4|\u11b5|\u111a|\u1106|\u1107|\u1108|\u1121|\u1109|\u110a|\u110b"),
    (0xffb8, "\u110c|\u110d|\u110e|\u110f|\u1110|\u1111|\u1112"),
    (0xffc2, "\u1161|\u1162|\u1163|\u1164|\u1165|\u1166"),
    (0xffca, "\u1167|\u1168|\u1169|\u116a|\u116b|\u116c"),
    (0xffd2, "\u116d|\u116e|\u116f|\u1170|\u1171|\u1172"), (0xffda, "\u1173|\u1174|\u1175"),
    (0xffe0, "¢|£|¬| \u0304|¦|¥|₩||│|←|↑|→|↓|■|○"),
    (0x10400, "𐐨|𐐩|𐐪|𐐫|𐐬|𐐭|𐐮|𐐯|𐐰|𐐱|𐐲|𐐳|𐐴|𐐵|𐐶|𐐷|𐐸|𐐹|𐐺|𐐻|𐐼|𐐽|𐐾|𐐿|𐑀|𐑁|𐑂|𐑃|𐑄|𐑅|𐑆|𐑇|𐑈|𐑉|𐑊|𐑋|𐑌|𐑍|𐑎"),
    (0x10427, "𐑏"),
    (0x104b0, "𐓘|𐓙|𐓚|𐓛|𐓜|𐓝|𐓞|𐓟|𐓠|𐓡|𐓢|𐓣|𐓤|𐓥|𐓦|𐓧|𐓨|𐓩|𐓪|𐓫|𐓬|𐓭|𐓮|𐓯|𐓰|𐓱|𐓲|𐓳|𐓴|𐓵|𐓶|𐓷|𐓸|𐓹|𐓺|𐓻"),
    (0x10570, "𐖗|𐖘|𐖙|𐖚|𐖛|𐖜|𐖝|𐖞|𐖟|𐖠|𐖡||𐖣|𐖤|𐖥|𐖦|𐖧|𐖨|𐖩|𐖪|𐖫|𐖬|𐖭|𐖮|𐖯|𐖰|𐖱||𐖳|𐖴|𐖵|𐖶|𐖷|𐖸|𐖹||𐖻|𐖼"),
    (0x10781, "\u02d0|\u02d1|æ|ʙ|ɓ||ʣ|ꭦ|ʥ|ʤ|ɖ|ɗ|ᶑ|ɘ|ɞ|ʩ|ɤ|ɢ|ɠ|ʛ|ħ|ʜ|ɧ|ʄ|ʪ|ʫ|ɬ|𝼄|ꞎ|ɮ|𝼅|ʎ|𝼆|ø"),
    (0x107a3, "ɶ|ɷ|q|ɺ|𝼈|ɽ|ɾ|ʀ|ʨ|ʦ|ꭧ|ʧ|ʈ|ⱱ||ʏ|ʡ|ʢ|ʘ|ǀ|ǁ|ǂ|𝼊|𝼞"),
    (0x10c80, "𐳀|𐳁|𐳂|𐳃|𐳄|𐳅|𐳆|𐳇|𐳈|𐳉|𐳊|𐳋|𐳌|𐳍|𐳎|𐳏|𐳐|𐳑|𐳒|𐳓|𐳔|𐳕|𐳖|𐳗|𐳘|𐳙|𐳚|𐳛|𐳜|𐳝|𐳞|𐳟|𐳠|𐳡|𐳢|𐳣|𐳤|𐳥|𐳦"),
    (0x10ca7, "𐳧|𐳨|𐳩|𐳪|𐳫|𐳬|𐳭|𐳮|𐳯|𐳰|𐳱|𐳲"), (0x10d50, "𐵰|𐵱|𐵲|𐵳|𐵴|𐵵|𐵶|𐵷|𐵸|𐵹|𐵺|𐵻|𐵼|𐵽|𐵾|𐵿|𐶀|𐶁|𐶂|𐶃|𐶄|𐶅"),
    (0x118a0, "𑣀|𑣁|𑣂|𑣃|𑣄|𑣅|𑣆|𑣇|𑣈|𑣉|𑣊|𑣋|𑣌|𑣍|𑣎|𑣏|𑣐|𑣑|𑣒|𑣓|𑣔|𑣕|𑣖|𑣗|𑣘|𑣙|𑣚|𑣛|𑣜|𑣝|𑣞|𑣟"),
    (0x16e40, "𖹠|𖹡|𖹢|𖹣|𖹤|𖹥|𖹦|𖹧|𖹨|𖹩|𖹪|𖹫|𖹬|𖹭|𖹮|𖹯|𖹰|𖹱|𖹲|𖹳|𖹴|𖹵|𖹶|𖹷|𖹸|𖹹|𖹺|𖹻|𖹼|𖹽|𖹾|𖹿"),
    (0x16ea0, "𖺻|𖺼|𖺽|𖺾|𖺿|𖻀|𖻁|𖻂|𖻃|𖻄|𖻅|𖻆|𖻇|𖻈|𖻉|𖻊|𖻋|𖻌|𖻍|𖻎|𖻏|𖻐|𖻑|𖻒|𖻓"), (0x1bca0, "|||"),
    (0x1ccd6, "a|b|c|d|e|f|g|h|i|j|k|l|m|n|o|p|q|r|s|t|u|v|w|x|y|z|0|1|2|3|4|5|6|7|8|9"),
    (0x1d15e, "𝅗𝅥|𝅘𝅥|𝅘𝅥𝅮|𝅘𝅥𝅯|𝅘𝅥𝅰|𝅘𝅥𝅱|𝅘𝅥𝅲"), (0x1d173, "|||||||"),
    (0x1d1bb, "𝆹𝅥|𝆺𝅥|𝆹𝅥𝅮|𝆺𝅥𝅮|𝆹𝅥𝅯|𝆺𝅥𝅯"),
    (0x1d400, "a|b|c|d|e|f|g|h|i|j|k|l|m|n|o|p|q|r|s|t|u|v|w|x|y|z|a|b|c|d|e|f|g|h|i|j|k|l|m"),
    (0x1d427, "n|o|p|q|r|s|t|u|v|w|x|y|z|a|b|c|d|e|f|g|h|i|j|k|l|m|n|o|p|q|r|s|t|u|v|w|x|y|z"),
    (0x1d44e, "a|b|c|d|e|f|g||i|j|k|l|m|n|o|p|q|r|s|t|u|v|w|x|y|z|a|b|c|d|e|f|g|h|i|j|k|l|m"),
    (0x1d475, "n|o|p|q|r|s|t|u|v|w|x|y|z|a|b|c|d|e|f|g|h|i|j|k|l|m|n|o|p|q|r|s|t|u|v|w|x|y|z"),
    (0x1d49c, "a||c|d"), (0x1d4a2, "g"), (0x1d4a5, "j|k"),
    (0x1d4a9, "n|o|p|q||s|t|u|v|w|x|y|z|a|b|c|d||f||h|i|j|k|l|m|n||p|q|r|s|t|u|v|w|x|y|z|a|b"),
    (0x1d4d2, "c|d|e|f|g|h|i|j|k|l|m|n|o|p|q|r|s|t|u|v|w|x|y|z|a|b|c|d|e|f|g|h|i|j|k|l|m|n|o"),
    (0x1d4f9, "p|q|r|s|t|u|v|w|x|y|z|a|b||d|e|f|g"),
    (0x1d50d, "j|k|l|m|n|o|p|q||s|t|u|v|w|x|y||a|b|c|d|e|f|g|h|i|j|k|l|m|n|o|p|q|r|s|t|u|v|w"),
    (0x1d535, "x|y|z|a|b||d|e|f|g||i|j|k|l|m||o"),
    (0x1d54a, "s|t|u|v|w|x|y||a|b|c|d|e|f|g|h|i|j|k|l|m|n|o|p|q|r|s|t|u|v|w|x|y|z|a|b|c|d|e"),
    (0x1d571, "f|g|h|i|j|k|l|m|n|o|p|q|r|s|t|u|v|w|x|y|z|a|b|c|d|e|f|g|h|i|j|k|l|m|n|o|p|q|r"),
    (0x1d598, "s|t|u|v|w|x|y|z|a|b|c|d|e|f|g|h|i|j|k|l|m|n|o|p|q|r|s|t|u|v|w|x|y|z|a|b|c|d|e"),
    (0x1d5bf, "f|g|h|i|j|k|l|m|n|o|p|q|r|s|t|u|v|w|x|y|z|a|b|c|d|e|f|g|h|i|j|k|l|m|n|o|p|q|r"),
    (0x1d5e6, "s|t|u|v|w|x|y|z|a|b|c|d|e|f|g|h|i|j|k|l|m|n|o|p|q|r|s|t|u|v|w|x|y|z|a|b|c|d|e"),
    (0x1d60d, "f|g|h|i|j|k|l|m|n|o|p|q|r|s|t|u|v|w|x|y|z|a|b|c|d|e|f|g|h|i|j|k|l|m|n|o|p|q|r"),
    (0x1d634, "s|t|u|v|w|x|y|z|a|b|c|d|e|f|g|h|i|j|k|l|m|n|o|p|q|r|s|t|u|v|w|x|y|z|a|b|c|d|e"),
    (0x1d65b, "f|g|h|i|j|k|l|m|n|o|p|q|r|s|t|u|v|w|x|y|z|a|b|c|d|e|f|g|h|i|j|k|l|m|n|o|p|q|r"),
    (0x1d682, "s|t|u|v|w|x|y|z|a|b|c|d|e|f|g|h|i|j|k|l|m|n|o|p|q|r|s|t|u|v|w|x|y|z|ı|ȷ"),
    (0x1d6a8, "α|β|γ|δ|ε|ζ|η|θ|ι|κ|λ|μ|ν|ξ|ο|π|ρ|θ|σ|τ|υ|φ|χ|ψ|ω|∇|α|β|γ|δ|ε|ζ|η|θ|ι|κ|λ|μ|ν"),
    (0x1d6cf, "ξ|ο|π|ρ|σ|σ|τ|υ|φ|χ|ψ|ω|∂|ε|θ|κ|φ|ρ|π|α|β|γ|δ|ε|ζ|η|θ|ι|κ|λ|μ|ν|ξ|ο|π|ρ|θ|σ|τ"),
    (0x1d6f6, "υ|φ|χ|ψ|ω|∇|α|β|γ|δ|ε|ζ|η|θ|ι|κ|λ|μ|ν|ξ|ο|π|ρ|σ|σ|τ|υ|φ|χ|ψ|ω|∂|ε|θ|κ|φ|ρ|π|α"),
    (0x1d71d, "β|γ|δ|ε|ζ|η|θ|ι|κ|λ|μ|ν|ξ|ο|π|ρ|θ|σ|τ|υ|φ|χ|ψ|ω|∇|α|β|γ|δ|ε|ζ|η|θ|ι|κ|λ|μ|ν|ξ"),
    (0x1d744, "ο|π|ρ|σ|σ|τ|υ|φ|χ|ψ|ω|∂|ε|θ|κ|φ|ρ|π|α|β|γ|δ|ε|ζ|η|θ|ι|κ|λ|μ|ν|ξ|ο|π|ρ|θ|σ|τ|υ"),
    (0x1d76b, "φ|χ|ψ|ω|∇|α|β|γ|δ|ε|ζ|η|θ|ι|κ|λ|μ|ν|ξ|ο|π|ρ|σ|σ|τ|υ|φ|χ|ψ|ω|∂|ε|θ|κ|φ|ρ|π|α|β"),
    (0x1d792, "γ|δ|ε|ζ|η|θ|ι|κ|λ|μ|ν|ξ|ο|π|ρ|θ|σ|τ|υ|φ|χ|ψ|ω|∇|α|β|γ|δ|ε|ζ|η|θ|ι|κ|λ|μ|ν|ξ|ο"),
    (0x1d7b9, "π|ρ|σ|σ|τ|υ|φ|χ|ψ|ω|∂|ε|θ|κ|φ|ρ|π|ϝ|ϝ"),
    (0x1d7ce, "0|1|2|3|4|5|6|7|8|9|0|1|2|3|4|5|6|7|8|9|0|1|2|3|4|5|6|7|8|9|0|1|2|3|4|5|6|7|8"),
    (0x1d7f5, "9|0|1|2|3|4|5|6|7|8|9"),
    (0x1e030, "а|б|в|г|д|е|ж|з|и|к|л|м|о|п|р|с|т|у|ф|х|ц|ч|ш|ы|э|ю|ꚉ|ә|і|ј|ө|ү|ӏ|а|б|в|г|д|е"),
    (0x1e057, "ж|з|и|к|л|о|п|с|у|ф|х|ц|ч|ш|ъ|ы|ґ|і|ѕ|џ|ҫ|ꙑ|ұ"),
    (0x1e900, "𞤢|𞤣|𞤤|𞤥|𞤦|𞤧|𞤨|𞤩|𞤪|𞤫|𞤬|𞤭|𞤮|𞤯|𞤰|𞤱|𞤲|𞤳|𞤴|𞤵|𞤶|𞤷|𞤸|𞤹|𞤺|𞤻|𞤼|𞤽|𞤾|𞤿|𞥀|𞥁|𞥂|𞥃"),
    (0x1ee00, "\u0627|\u0628|\u062c|\u062f||\u0648|\u0632|\u062d|\u0637|\u064a|\u0643|\u0644"),
    (0x1ee0c, "\u0645|\u0646|\u0633|\u0639|\u0641|\u0635|\u0642|\u0631|\u0634|\u062a|\u062b"),
    (0x1ee17, "\u062e|\u0630|\u0636|\u0638|\u063a|\u066e|\u06ba|\u06a1|\u066f||\u0628|\u062c"),
    (0x1ee24, "\u0647"),
    (0x1ee27, "\u062d||\u064a|\u0643|\u0644|\u0645|\u0646|\u0633|\u0639|\u0641|\u0635|\u0642"),
    (0x1ee34, "\u0634|\u062a|\u062b|\u062e||\u0636||\u063a"), (0x1ee42, "\u062c"),
    (0x1ee47, "\u062d||\u064a||\u0644||\u0646|\u0633|\u0639||\u0635|\u0642||\u0634"),
    (0x1ee57, "\u062e||\u0636||\u063a||\u06ba||\u066f||\u0628|\u062c||\u0647"),
    (0x1ee67, "\u062d|\u0637|\u064a|\u0643||\u0645|\u0646|\u0633|\u0639|\u0641|\u0635|\u0642"),
    (0x1ee74, "\u0634|\u062a|\u062b|\u062e||\u0636|\u0638|\u063a|\u066e||\u06a1||\u0627"),
    (0x1ee81, "\u0628|\u062c|\u062f|\u0647|\u0648|\u0632|\u062d|\u0637|\u064a||\u0644|\u0645"),
    (0x1ee8d, "\u0646|\u0633|\u0639|\u0641|\u0635|\u0642|\u0631|\u0634|\u062a|\u062b|\u062e"),
    (0x1ee98, "\u0630|\u0636|\u0638|\u063a"),
    (0x1eea1, "\u0628|\u062c|\u062f||\u0648|\u0632|\u062d|\u0637|\u064a||\u0644|\u0645"),
    (0x1eead, "\u0646|\u0633|\u0639|\u0641|\u0635|\u0642|\u0631|\u0634|\u062a|\u062b|\u062e"),
    (0x1eeb8, "\u0630|\u0636|\u0638|\u063a"), (0x1f101, "0,|1,|2,|3,|4,|5,|6,|7,|8,|9,"),
    (0x1f110, "(a)|(b)|(c)|(d)|(e)|(f)|(g)|(h)|(i)|(j)|(k)|(l)|(m)|(n)|(o)|(p)|(q)|(r)|(s)"),
    (0x1f123, "(t)|(u)|(v)|(w)|(x)|(y)|(z)|〔s〕|c|r|cd|wz|🄯|a|b|c|d|e|f|g|h|i|j|k|l|m|n|o|p|q"),
    (0x1f141, "r|s|t|u|v|w|x|y|z|hv|mv|sd|ss|ppv|wc"), (0x1f16a, "mc|md|mr"), (0x1f190, "dj"),
    (0x1f200, "ほか|ココ|サ"),
    (0x1f210, "手|字|双|デ|二|多|解|天|交|映|無|料|前|後|再|新|初|終|生|販|声|吹|演|投|捕|一|三|遊|左|中|右|指|走|打|禁|空|合|満|有"),
    (0x1f237, "月|申|割|営|配"), (0x1f240, "〔本〕|〔三〕|〔二〕|〔安〕|〔点〕|〔打〕|〔盗〕|〔勝〕|〔敗〕"), (0x1f250, "得|可"),
    (0x1fbf0, "0|1|2|3|4|5|6|7|8|9"),
    (0x2f800, "丽|丸|乁|𠄢|你|侮|侻|倂|偺|備|僧|像|㒞|𠘺|免|兔|兤|具|𠔜|㒹|內|再|𠕋|冗|冤|仌|冬|况|𩇟|凵|刃|㓟|刻|剆|割|剷|㔕|勇|勉"),
    (0x2f827, "勤|勺|包|匆|北|卉|卑|博|即|卽|卿|卿|卿|𠨬|灰|及|叟|𠭣|叫|叱|吆|咞|吸|呈|周|咢|哶|唐|啓|啣|善|善|喙|喫|喳|嗂|圖|嘆|圗"),
    (0x2f84e, "噑|噴|切|壮|城|埴|堍|型|堲|報|墬|𡓤|売|壷|夆|多|夢|奢|𡚨|𡛪|姬|娛|娧|姘|婦|㛮|㛼|嬈|嬾|嬾|𡧈|寃|寘|寧|寳|𡬘|寿|将|当"),
    (0x2f875, "尢|㞁|屠|屮|峀|岍|𡷤|嵃|𡷦|嵮|嵫|嵼|巡|巢|㠯|巽|帨|帽|幩|㡢|𢆃|㡼|庰|庳|庶|廊|𪎒|廾|𢌱|𢌱|舁|弢|弢|㣇|𣊸|𦇚|形|彫|㣣"),
    (0x2f89c, "徚|忍|志|忹|悁|㤺|㤜|悔|𢛔|惇|慈|慌|慎|慌|慺|憎|憲|憤|憯|懞|懲|懶|成|戛|扝|抱|拔|捐|𢬌|挽|拼|捨|掃|揤|𢯱|搢|揅|掩|㨮"),
    (0x2f8c3, "摩|摾|撝|摷|㩬|敏|敬|𣀊|旣|書|晉|㬙|暑|㬈|㫤|冒|冕|最|暜|肭|䏙|朗|望|朡|杞|杓|𣏃|㭉|柺|枅|桒|梅|𣑭|梎|栟|椔|㮝|楂|榣"),
    (0x2f8ea, "槪|檨|𣚣|櫛|㰘|次|𣢧|歔|㱎|歲|殟|殺|殻|𣪍|𡴋|𣫺|汎|𣲼|沿|泍|汧|洖|派|海|流|浩|浸|涅|𣴞|洴|港|湮|㴳|滋|滇|𣻑|淹|潮|𣽞"),
    (0x2f911, "𣾎|濆|瀹|瀞|瀛|㶖|灊|災|灷|炭|𠔥|煅|𤉣|熜|𤎫|爨|爵|牐|𤘈|犀|犕|𤜵|𤠔|獺|王|㺬|玥|㺸|㺸|瑇|瑜|瑱|璅|瓊|㼛|甤|𤰶|甾|𤲒"),
    (0x2f938, "異|𢆟|瘐|𤾡|𤾸|𥁄|㿼|䀈|直|𥃳|𥃲|𥄙|𥄳|眞|真|真|睊|䀹|瞋|䁆|䂖|𥐝|硎|碌|磌|䃣|𥘦|祖|𥚚|𥛅|福|秫|䄯|穀|穊|穏|𥥼|𥪧|𥪧"),
    (0x2f95f, "竮|䈂|𥮫|篆|築|䈧|𥲀|糒|䊠|糨|糣|紀|𥾆|絣|䌁|緇|縂|繅|䌴|𦈨|𦉇|䍙|𦋙|罺|𦌾|羕|翺|者|𦓚|𦔣|聠|𦖨|聰|𣍟|䏕|育|脃|䐋|脾"),
    (0x2f986, "媵|𦞧|𦞵|𣎓|𣎜|舁|舄|辞|䑫|芑|芋|芝|劳|花|芳|芽|苦|𦬼|若|茝|荣|莭|茣|莽|菧|著|荓|菊|菌|菜|𦰶|𦵫|𦳕|䔫|蓱|蓳|蔖|𧏊|蕤"),
    (0x2f9ad, "𦼬|䕝|䕡|𦾱|𧃒|䕫|虐|虜|虧|虩|蚩|蚈|蜎|蛢|蝹|蜨|蝫|螆|䗗|蟡|蠁|䗹|衠|衣|𧙧|裗|裞|䘵|裺|㒻|𧢮|𧥦|䚾|䛇|誠|諭|變|豕|𧲨"),
    (0x2f9d4, "貫|賁|贛|起|𧼯|𠠄|跋|趼|跰|𠣞|軔|輸|𨗒|𨗭|邔|郱|鄑|𨜮|鄛|鈸|鋗|鋘|鉼|鏹|鐕|𨯺|開|䦕|閷|𨵷|䧦|雃|嶲|霣|𩅅|𩈚|䩮|䩶|韠"),
    (0x2f9fb, "𩐊|䪲|𩒖|頋|頋|頩|𩖶|飢|䬳|餩|馧|駂|駾|䯎|𩬰|鬒|鱀|鳽|䳎|䳭|鵧|𪃎|䳸|𪄅|𪈎|𪊑|麻|䵖|黹|黾|鼅|鼏|鼖|鼻|𪘀"),
    (0xe0100, "|||||||||||||||||||||||||||||||||||||||||||||||||||||||||||||||||||||||||||||"),
    (0xe014e, "|||||||||||||||||||||||||||||||||||||||||||||||||||||||||||||||||||||||||||||"),
    (0xe019c, "|||||||||||||||||||||||||||||||||||||||||||||||||||||||||||||||||||||||||||||"),
    (0xe01ea, "|||||")]

/-- The form of a character in the table, if it is written there. -/
def tableForm? (point : Nat) : Option (List Char) := do
  let (first, forms) ← (mappedRuns.takeWhile (·.1 ≤ point)).getLast?
  (Text.splitAt (· == '|') forms.toList)[point - first]?

/-- The form of a character, if a domain name may hold it: full-width forms of ASCII are mapped
by their distance, small letters and what the table does not name stand for themselves. -/
def form? (c : Char) : Option (List Char) :=
  let point := c.toNat
  if point < 128 then some [c.toLower]
  else if refusedPoints.holds point then none
  else if 0xff01 ≤ point && point ≤ 0xff5e then some [(Char.ofNat (point - 0xfee0)).toLower]
  else some ((tableForm? point).getD [c])

/-- Whether the character is its own form. -/
def isOwnForm (c : Char) : Bool := form? c == some [c]

end Endpoint.Url.Domain
