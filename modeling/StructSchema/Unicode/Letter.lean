import StructSchema.Unicode.CodeRange

/-!
# Letters

The characters of the general categories Lu, Ll, Lt, Lm and Lo, in version 16.0 of the standard.
-/

namespace StructSchema.Unicode

/-- The letters, in increasing order. -/
def letterRanges : List CodeRange :=
  [.run 0x41 0x5A, .run 0x61 0x7A, .single 0xAA, .single 0xB5, .single 0xBA, .run 0xC0 0xD6,
   .run 0xD8 0xF6, .run 0xF8 0x2C1, .run 0x2C6 0x2D1, .run 0x2E0 0x2E4, .single 0x2EC,
   .single 0x2EE, .run 0x370 0x374, .run 0x376 0x377, .run 0x37A 0x37D, .single 0x37F,
   .single 0x386, .run 0x388 0x38A, .single 0x38C, .run 0x38E 0x3A1, .run 0x3A3 0x3F5,
   .run 0x3F7 0x481, .run 0x48A 0x52F, .run 0x531 0x556, .single 0x559, .run 0x560 0x588,
   .run 0x5D0 0x5EA, .run 0x5EF 0x5F2, .run 0x620 0x64A, .run 0x66E 0x66F, .run 0x671 0x6D3,
   .single 0x6D5, .run 0x6E5 0x6E6, .run 0x6EE 0x6EF, .run 0x6FA 0x6FC, .single 0x6FF,
   .single 0x710, .run 0x712 0x72F, .run 0x74D 0x7A5, .single 0x7B1, .run 0x7CA 0x7EA,
   .run 0x7F4 0x7F5, .single 0x7FA, .run 0x800 0x815, .single 0x81A, .single 0x824, .single 0x828,
   .run 0x840 0x858, .run 0x860 0x86A, .run 0x870 0x887, .run 0x889 0x88E, .run 0x8A0 0x8C9,
   .run 0x904 0x939, .single 0x93D, .single 0x950, .run 0x958 0x961, .run 0x971 0x980,
   .run 0x985 0x98C, .run 0x98F 0x990, .run 0x993 0x9A8, .run 0x9AA 0x9B0, .single 0x9B2,
   .run 0x9B6 0x9B9, .single 0x9BD, .single 0x9CE, .run 0x9DC 0x9DD, .run 0x9DF 0x9E1,
   .run 0x9F0 0x9F1, .single 0x9FC, .run 0xA05 0xA0A, .run 0xA0F 0xA10, .run 0xA13 0xA28,
   .run 0xA2A 0xA30, .run 0xA32 0xA33, .run 0xA35 0xA36, .run 0xA38 0xA39, .run 0xA59 0xA5C,
   .single 0xA5E, .run 0xA72 0xA74, .run 0xA85 0xA8D, .run 0xA8F 0xA91, .run 0xA93 0xAA8,
   .run 0xAAA 0xAB0, .run 0xAB2 0xAB3, .run 0xAB5 0xAB9, .single 0xABD, .single 0xAD0,
   .run 0xAE0 0xAE1, .single 0xAF9, .run 0xB05 0xB0C, .run 0xB0F 0xB10, .run 0xB13 0xB28,
   .run 0xB2A 0xB30, .run 0xB32 0xB33, .run 0xB35 0xB39, .single 0xB3D, .run 0xB5C 0xB5D,
   .run 0xB5F 0xB61, .single 0xB71, .single 0xB83, .run 0xB85 0xB8A, .run 0xB8E 0xB90,
   .run 0xB92 0xB95, .run 0xB99 0xB9A, .single 0xB9C, .run 0xB9E 0xB9F, .run 0xBA3 0xBA4,
   .run 0xBA8 0xBAA, .run 0xBAE 0xBB9, .single 0xBD0, .run 0xC05 0xC0C, .run 0xC0E 0xC10,
   .run 0xC12 0xC28, .run 0xC2A 0xC39, .single 0xC3D, .run 0xC58 0xC5A, .single 0xC5D,
   .run 0xC60 0xC61, .single 0xC80, .run 0xC85 0xC8C, .run 0xC8E 0xC90, .run 0xC92 0xCA8,
   .run 0xCAA 0xCB3, .run 0xCB5 0xCB9, .single 0xCBD, .run 0xCDD 0xCDE, .run 0xCE0 0xCE1,
   .run 0xCF1 0xCF2, .run 0xD04 0xD0C, .run 0xD0E 0xD10, .run 0xD12 0xD3A, .single 0xD3D,
   .single 0xD4E, .run 0xD54 0xD56, .run 0xD5F 0xD61, .run 0xD7A 0xD7F, .run 0xD85 0xD96,
   .run 0xD9A 0xDB1, .run 0xDB3 0xDBB, .single 0xDBD, .run 0xDC0 0xDC6, .run 0xE01 0xE30,
   .run 0xE32 0xE33, .run 0xE40 0xE46, .run 0xE81 0xE82, .single 0xE84, .run 0xE86 0xE8A,
   .run 0xE8C 0xEA3, .single 0xEA5, .run 0xEA7 0xEB0, .run 0xEB2 0xEB3, .single 0xEBD,
   .run 0xEC0 0xEC4, .single 0xEC6, .run 0xEDC 0xEDF, .single 0xF00, .run 0xF40 0xF47,
   .run 0xF49 0xF6C, .run 0xF88 0xF8C, .run 0x1000 0x102A, .single 0x103F, .run 0x1050 0x1055,
   .run 0x105A 0x105D, .single 0x1061, .run 0x1065 0x1066, .run 0x106E 0x1070, .run 0x1075 0x1081,
   .single 0x108E, .run 0x10A0 0x10C5, .single 0x10C7, .single 0x10CD, .run 0x10D0 0x10FA,
   .run 0x10FC 0x1248, .run 0x124A 0x124D, .run 0x1250 0x1256, .single 0x1258, .run 0x125A 0x125D,
   .run 0x1260 0x1288, .run 0x128A 0x128D, .run 0x1290 0x12B0, .run 0x12B2 0x12B5,
   .run 0x12B8 0x12BE, .single 0x12C0, .run 0x12C2 0x12C5, .run 0x12C8 0x12D6, .run 0x12D8 0x1310,
   .run 0x1312 0x1315, .run 0x1318 0x135A, .run 0x1380 0x138F, .run 0x13A0 0x13F5,
   .run 0x13F8 0x13FD, .run 0x1401 0x166C, .run 0x166F 0x167F, .run 0x1681 0x169A,
   .run 0x16A0 0x16EA, .run 0x16F1 0x16F8, .run 0x1700 0x1711, .run 0x171F 0x1731,
   .run 0x1740 0x1751, .run 0x1760 0x176C, .run 0x176E 0x1770, .run 0x1780 0x17B3, .single 0x17D7,
   .single 0x17DC, .run 0x1820 0x1878, .run 0x1880 0x1884, .run 0x1887 0x18A8, .single 0x18AA,
   .run 0x18B0 0x18F5, .run 0x1900 0x191E, .run 0x1950 0x196D, .run 0x1970 0x1974,
   .run 0x1980 0x19AB, .run 0x19B0 0x19C9, .run 0x1A00 0x1A16, .run 0x1A20 0x1A54, .single 0x1AA7,
   .run 0x1B05 0x1B33, .run 0x1B45 0x1B4C, .run 0x1B83 0x1BA0, .run 0x1BAE 0x1BAF,
   .run 0x1BBA 0x1BE5, .run 0x1C00 0x1C23, .run 0x1C4D 0x1C4F, .run 0x1C5A 0x1C7D,
   .run 0x1C80 0x1C8A, .run 0x1C90 0x1CBA, .run 0x1CBD 0x1CBF, .run 0x1CE9 0x1CEC,
   .run 0x1CEE 0x1CF3, .run 0x1CF5 0x1CF6, .single 0x1CFA, .run 0x1D00 0x1DBF, .run 0x1E00 0x1F15,
   .run 0x1F18 0x1F1D, .run 0x1F20 0x1F45, .run 0x1F48 0x1F4D, .run 0x1F50 0x1F57, .single 0x1F59,
   .single 0x1F5B, .single 0x1F5D, .run 0x1F5F 0x1F7D, .run 0x1F80 0x1FB4, .run 0x1FB6 0x1FBC,
   .single 0x1FBE, .run 0x1FC2 0x1FC4, .run 0x1FC6 0x1FCC, .run 0x1FD0 0x1FD3, .run 0x1FD6 0x1FDB,
   .run 0x1FE0 0x1FEC, .run 0x1FF2 0x1FF4, .run 0x1FF6 0x1FFC, .single 0x2071, .single 0x207F,
   .run 0x2090 0x209C, .single 0x2102, .single 0x2107, .run 0x210A 0x2113, .single 0x2115,
   .run 0x2119 0x211D, .single 0x2124, .single 0x2126, .single 0x2128, .run 0x212A 0x212D,
   .run 0x212F 0x2139, .run 0x213C 0x213F, .run 0x2145 0x2149, .single 0x214E, .run 0x2183 0x2184,
   .run 0x2C00 0x2CE4, .run 0x2CEB 0x2CEE, .run 0x2CF2 0x2CF3, .run 0x2D00 0x2D25, .single 0x2D27,
   .single 0x2D2D, .run 0x2D30 0x2D67, .single 0x2D6F, .run 0x2D80 0x2D96, .run 0x2DA0 0x2DA6,
   .run 0x2DA8 0x2DAE, .run 0x2DB0 0x2DB6, .run 0x2DB8 0x2DBE, .run 0x2DC0 0x2DC6,
   .run 0x2DC8 0x2DCE, .run 0x2DD0 0x2DD6, .run 0x2DD8 0x2DDE, .single 0x2E2F, .run 0x3005 0x3006,
   .run 0x3031 0x3035, .run 0x303B 0x303C, .run 0x3041 0x3096, .run 0x309D 0x309F,
   .run 0x30A1 0x30FA, .run 0x30FC 0x30FF, .run 0x3105 0x312F, .run 0x3131 0x318E,
   .run 0x31A0 0x31BF, .run 0x31F0 0x31FF, .run 0x3400 0x4DBF, .run 0x4E00 0xA48C,
   .run 0xA4D0 0xA4FD, .run 0xA500 0xA60C, .run 0xA610 0xA61F, .run 0xA62A 0xA62B,
   .run 0xA640 0xA66E, .run 0xA67F 0xA69D, .run 0xA6A0 0xA6E5, .run 0xA717 0xA71F,
   .run 0xA722 0xA788, .run 0xA78B 0xA7CD, .run 0xA7D0 0xA7D1, .single 0xA7D3, .run 0xA7D5 0xA7DC,
   .run 0xA7F2 0xA801, .run 0xA803 0xA805, .run 0xA807 0xA80A, .run 0xA80C 0xA822,
   .run 0xA840 0xA873, .run 0xA882 0xA8B3, .run 0xA8F2 0xA8F7, .single 0xA8FB, .run 0xA8FD 0xA8FE,
   .run 0xA90A 0xA925, .run 0xA930 0xA946, .run 0xA960 0xA97C, .run 0xA984 0xA9B2, .single 0xA9CF,
   .run 0xA9E0 0xA9E4, .run 0xA9E6 0xA9EF, .run 0xA9FA 0xA9FE, .run 0xAA00 0xAA28,
   .run 0xAA40 0xAA42, .run 0xAA44 0xAA4B, .run 0xAA60 0xAA76, .single 0xAA7A, .run 0xAA7E 0xAAAF,
   .single 0xAAB1, .run 0xAAB5 0xAAB6, .run 0xAAB9 0xAABD, .single 0xAAC0, .single 0xAAC2,
   .run 0xAADB 0xAADD, .run 0xAAE0 0xAAEA, .run 0xAAF2 0xAAF4, .run 0xAB01 0xAB06,
   .run 0xAB09 0xAB0E, .run 0xAB11 0xAB16, .run 0xAB20 0xAB26, .run 0xAB28 0xAB2E,
   .run 0xAB30 0xAB5A, .run 0xAB5C 0xAB69, .run 0xAB70 0xABE2, .run 0xAC00 0xD7A3,
   .run 0xD7B0 0xD7C6, .run 0xD7CB 0xD7FB, .run 0xF900 0xFA6D, .run 0xFA70 0xFAD9,
   .run 0xFB00 0xFB06, .run 0xFB13 0xFB17, .single 0xFB1D, .run 0xFB1F 0xFB28, .run 0xFB2A 0xFB36,
   .run 0xFB38 0xFB3C, .single 0xFB3E, .run 0xFB40 0xFB41, .run 0xFB43 0xFB44, .run 0xFB46 0xFBB1,
   .run 0xFBD3 0xFD3D, .run 0xFD50 0xFD8F, .run 0xFD92 0xFDC7, .run 0xFDF0 0xFDFB,
   .run 0xFE70 0xFE74, .run 0xFE76 0xFEFC, .run 0xFF21 0xFF3A, .run 0xFF41 0xFF5A,
   .run 0xFF66 0xFFBE, .run 0xFFC2 0xFFC7, .run 0xFFCA 0xFFCF, .run 0xFFD2 0xFFD7,
   .run 0xFFDA 0xFFDC, .run 0x10000 0x1000B, .run 0x1000D 0x10026, .run 0x10028 0x1003A,
   .run 0x1003C 0x1003D, .run 0x1003F 0x1004D, .run 0x10050 0x1005D, .run 0x10080 0x100FA,
   .run 0x10280 0x1029C, .run 0x102A0 0x102D0, .run 0x10300 0x1031F, .run 0x1032D 0x10340,
   .run 0x10342 0x10349, .run 0x10350 0x10375, .run 0x10380 0x1039D, .run 0x103A0 0x103C3,
   .run 0x103C8 0x103CF, .run 0x10400 0x1049D, .run 0x104B0 0x104D3, .run 0x104D8 0x104FB,
   .run 0x10500 0x10527, .run 0x10530 0x10563, .run 0x10570 0x1057A, .run 0x1057C 0x1058A,
   .run 0x1058C 0x10592, .run 0x10594 0x10595, .run 0x10597 0x105A1, .run 0x105A3 0x105B1,
   .run 0x105B3 0x105B9, .run 0x105BB 0x105BC, .run 0x105C0 0x105F3, .run 0x10600 0x10736,
   .run 0x10740 0x10755, .run 0x10760 0x10767, .run 0x10780 0x10785, .run 0x10787 0x107B0,
   .run 0x107B2 0x107BA, .run 0x10800 0x10805, .single 0x10808, .run 0x1080A 0x10835,
   .run 0x10837 0x10838, .single 0x1083C, .run 0x1083F 0x10855, .run 0x10860 0x10876,
   .run 0x10880 0x1089E, .run 0x108E0 0x108F2, .run 0x108F4 0x108F5, .run 0x10900 0x10915,
   .run 0x10920 0x10939, .run 0x10980 0x109B7, .run 0x109BE 0x109BF, .single 0x10A00,
   .run 0x10A10 0x10A13, .run 0x10A15 0x10A17, .run 0x10A19 0x10A35, .run 0x10A60 0x10A7C,
   .run 0x10A80 0x10A9C, .run 0x10AC0 0x10AC7, .run 0x10AC9 0x10AE4, .run 0x10B00 0x10B35,
   .run 0x10B40 0x10B55, .run 0x10B60 0x10B72, .run 0x10B80 0x10B91, .run 0x10C00 0x10C48,
   .run 0x10C80 0x10CB2, .run 0x10CC0 0x10CF2, .run 0x10D00 0x10D23, .run 0x10D4A 0x10D65,
   .run 0x10D6F 0x10D85, .run 0x10E80 0x10EA9, .run 0x10EB0 0x10EB1, .run 0x10EC2 0x10EC4,
   .run 0x10F00 0x10F1C, .single 0x10F27, .run 0x10F30 0x10F45, .run 0x10F70 0x10F81,
   .run 0x10FB0 0x10FC4, .run 0x10FE0 0x10FF6, .run 0x11003 0x11037, .run 0x11071 0x11072,
   .single 0x11075, .run 0x11083 0x110AF, .run 0x110D0 0x110E8, .run 0x11103 0x11126,
   .single 0x11144, .single 0x11147, .run 0x11150 0x11172, .single 0x11176, .run 0x11183 0x111B2,
   .run 0x111C1 0x111C4, .single 0x111DA, .single 0x111DC, .run 0x11200 0x11211,
   .run 0x11213 0x1122B, .run 0x1123F 0x11240, .run 0x11280 0x11286, .single 0x11288,
   .run 0x1128A 0x1128D, .run 0x1128F 0x1129D, .run 0x1129F 0x112A8, .run 0x112B0 0x112DE,
   .run 0x11305 0x1130C, .run 0x1130F 0x11310, .run 0x11313 0x11328, .run 0x1132A 0x11330,
   .run 0x11332 0x11333, .run 0x11335 0x11339, .single 0x1133D, .single 0x11350,
   .run 0x1135D 0x11361, .run 0x11380 0x11389, .single 0x1138B, .single 0x1138E,
   .run 0x11390 0x113B5, .single 0x113B7, .single 0x113D1, .single 0x113D3, .run 0x11400 0x11434,
   .run 0x11447 0x1144A, .run 0x1145F 0x11461, .run 0x11480 0x114AF, .run 0x114C4 0x114C5,
   .single 0x114C7, .run 0x11580 0x115AE, .run 0x115D8 0x115DB, .run 0x11600 0x1162F,
   .single 0x11644, .run 0x11680 0x116AA, .single 0x116B8, .run 0x11700 0x1171A,
   .run 0x11740 0x11746, .run 0x11800 0x1182B, .run 0x118A0 0x118DF, .run 0x118FF 0x11906,
   .single 0x11909, .run 0x1190C 0x11913, .run 0x11915 0x11916, .run 0x11918 0x1192F,
   .single 0x1193F, .single 0x11941, .run 0x119A0 0x119A7, .run 0x119AA 0x119D0, .single 0x119E1,
   .single 0x119E3, .single 0x11A00, .run 0x11A0B 0x11A32, .single 0x11A3A, .single 0x11A50,
   .run 0x11A5C 0x11A89, .single 0x11A9D, .run 0x11AB0 0x11AF8, .run 0x11BC0 0x11BE0,
   .run 0x11C00 0x11C08, .run 0x11C0A 0x11C2E, .single 0x11C40, .run 0x11C72 0x11C8F,
   .run 0x11D00 0x11D06, .run 0x11D08 0x11D09, .run 0x11D0B 0x11D30, .single 0x11D46,
   .run 0x11D60 0x11D65, .run 0x11D67 0x11D68, .run 0x11D6A 0x11D89, .single 0x11D98,
   .run 0x11EE0 0x11EF2, .single 0x11F02, .run 0x11F04 0x11F10, .run 0x11F12 0x11F33,
   .single 0x11FB0, .run 0x12000 0x12399, .run 0x12480 0x12543, .run 0x12F90 0x12FF0,
   .run 0x13000 0x1342F, .run 0x13441 0x13446, .run 0x13460 0x143FA, .run 0x14400 0x14646,
   .run 0x16100 0x1611D, .run 0x16800 0x16A38, .run 0x16A40 0x16A5E, .run 0x16A70 0x16ABE,
   .run 0x16AD0 0x16AED, .run 0x16B00 0x16B2F, .run 0x16B40 0x16B43, .run 0x16B63 0x16B77,
   .run 0x16B7D 0x16B8F, .run 0x16D40 0x16D6C, .run 0x16E40 0x16E7F, .run 0x16F00 0x16F4A,
   .single 0x16F50, .run 0x16F93 0x16F9F, .run 0x16FE0 0x16FE1, .single 0x16FE3,
   .run 0x17000 0x187F7, .run 0x18800 0x18CD5, .run 0x18CFF 0x18D08, .run 0x1AFF0 0x1AFF3,
   .run 0x1AFF5 0x1AFFB, .run 0x1AFFD 0x1AFFE, .run 0x1B000 0x1B122, .single 0x1B132,
   .run 0x1B150 0x1B152, .single 0x1B155, .run 0x1B164 0x1B167, .run 0x1B170 0x1B2FB,
   .run 0x1BC00 0x1BC6A, .run 0x1BC70 0x1BC7C, .run 0x1BC80 0x1BC88, .run 0x1BC90 0x1BC99,
   .run 0x1D400 0x1D454, .run 0x1D456 0x1D49C, .run 0x1D49E 0x1D49F, .single 0x1D4A2,
   .run 0x1D4A5 0x1D4A6, .run 0x1D4A9 0x1D4AC, .run 0x1D4AE 0x1D4B9, .single 0x1D4BB,
   .run 0x1D4BD 0x1D4C3, .run 0x1D4C5 0x1D505, .run 0x1D507 0x1D50A, .run 0x1D50D 0x1D514,
   .run 0x1D516 0x1D51C, .run 0x1D51E 0x1D539, .run 0x1D53B 0x1D53E, .run 0x1D540 0x1D544,
   .single 0x1D546, .run 0x1D54A 0x1D550, .run 0x1D552 0x1D6A5, .run 0x1D6A8 0x1D6C0,
   .run 0x1D6C2 0x1D6DA, .run 0x1D6DC 0x1D6FA, .run 0x1D6FC 0x1D714, .run 0x1D716 0x1D734,
   .run 0x1D736 0x1D74E, .run 0x1D750 0x1D76E, .run 0x1D770 0x1D788, .run 0x1D78A 0x1D7A8,
   .run 0x1D7AA 0x1D7C2, .run 0x1D7C4 0x1D7CB, .run 0x1DF00 0x1DF1E, .run 0x1DF25 0x1DF2A,
   .run 0x1E030 0x1E06D, .run 0x1E100 0x1E12C, .run 0x1E137 0x1E13D, .single 0x1E14E,
   .run 0x1E290 0x1E2AD, .run 0x1E2C0 0x1E2EB, .run 0x1E4D0 0x1E4EB, .run 0x1E5D0 0x1E5ED,
   .single 0x1E5F0, .run 0x1E7E0 0x1E7E6, .run 0x1E7E8 0x1E7EB, .run 0x1E7ED 0x1E7EE,
   .run 0x1E7F0 0x1E7FE, .run 0x1E800 0x1E8C4, .run 0x1E900 0x1E943, .single 0x1E94B,
   .run 0x1EE00 0x1EE03, .run 0x1EE05 0x1EE1F, .run 0x1EE21 0x1EE22, .single 0x1EE24,
   .single 0x1EE27, .run 0x1EE29 0x1EE32, .run 0x1EE34 0x1EE37, .single 0x1EE39, .single 0x1EE3B,
   .single 0x1EE42, .single 0x1EE47, .single 0x1EE49, .single 0x1EE4B, .run 0x1EE4D 0x1EE4F,
   .run 0x1EE51 0x1EE52, .single 0x1EE54, .single 0x1EE57, .single 0x1EE59, .single 0x1EE5B,
   .single 0x1EE5D, .single 0x1EE5F, .run 0x1EE61 0x1EE62, .single 0x1EE64, .run 0x1EE67 0x1EE6A,
   .run 0x1EE6C 0x1EE72, .run 0x1EE74 0x1EE77, .run 0x1EE79 0x1EE7C, .single 0x1EE7E,
   .run 0x1EE80 0x1EE89, .run 0x1EE8B 0x1EE9B, .run 0x1EEA1 0x1EEA3, .run 0x1EEA5 0x1EEA9,
   .run 0x1EEAB 0x1EEBB, .run 0x20000 0x2A6DF, .run 0x2A700 0x2B739, .run 0x2B740 0x2B81D,
   .run 0x2B820 0x2CEA1, .run 0x2CEB0 0x2EBE0, .run 0x2EBF0 0x2EE5D, .run 0x2F800 0x2FA1D,
   .run 0x30000 0x3134A, .run 0x31350 0x323AF]

/-- A letter of any script. -/
def isLetter (c : Char) : Bool := CodeRange.covers letterRanges c.toNat

end StructSchema.Unicode
