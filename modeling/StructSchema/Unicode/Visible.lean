import StructSchema.Unicode.CodeRange

/-!
# Visible characters

A character is visible if it shows a mark of its own: it is no control, format, private or
unassigned character, no filler that is drawn as nothing, no separator but the plain blank, and does
not merge with the character before it. The tables follow version 17.0 of the standard.
-/

namespace StructSchema.Unicode

/-- The characters with the property Grapheme_Extend, such as combining marks, in order. The
    halfwidth voicing marks U+FF9E and U+FF9F are left out: they stand in a cell of their own. -/
def mergingRanges : List CodeRange :=
  [.run 0x300 0x36F, .run 0x483 0x489, .run 0x591 0x5BD, .single 0x5BF, .run 0x5C1 0x5C2,
   .run 0x5C4 0x5C5, .single 0x5C7, .run 0x610 0x61A, .run 0x64B 0x65F, .single 0x670,
   .run 0x6D6 0x6DC, .run 0x6DF 0x6E4, .run 0x6E7 0x6E8, .run 0x6EA 0x6ED, .single 0x711,
   .run 0x730 0x74A, .run 0x7A6 0x7B0, .run 0x7EB 0x7F3, .single 0x7FD, .run 0x816 0x819,
   .run 0x81B 0x823, .run 0x825 0x827, .run 0x829 0x82D, .run 0x859 0x85B, .run 0x897 0x89F,
   .run 0x8CA 0x8E1, .run 0x8E3 0x902, .single 0x93A, .single 0x93C, .run 0x941 0x948,
   .single 0x94D, .run 0x951 0x957, .run 0x962 0x963, .single 0x981, .single 0x9BC, .single 0x9BE,
   .run 0x9C1 0x9C4, .single 0x9CD, .single 0x9D7, .run 0x9E2 0x9E3, .single 0x9FE,
   .run 0xA01 0xA02, .single 0xA3C, .run 0xA41 0xA42, .run 0xA47 0xA48, .run 0xA4B 0xA4D,
   .single 0xA51, .run 0xA70 0xA71, .single 0xA75, .run 0xA81 0xA82, .single 0xABC,
   .run 0xAC1 0xAC5, .run 0xAC7 0xAC8, .single 0xACD, .run 0xAE2 0xAE3, .run 0xAFA 0xAFF,
   .single 0xB01, .single 0xB3C, .run 0xB3E 0xB3F, .run 0xB41 0xB44, .single 0xB4D,
   .run 0xB55 0xB57, .run 0xB62 0xB63, .single 0xB82, .single 0xBBE, .single 0xBC0, .single 0xBCD,
   .single 0xBD7, .single 0xC00, .single 0xC04, .single 0xC3C, .run 0xC3E 0xC40, .run 0xC46 0xC48,
   .run 0xC4A 0xC4D, .run 0xC55 0xC56, .run 0xC62 0xC63, .single 0xC81, .single 0xCBC,
   .run 0xCBF 0xCC0, .single 0xCC2, .run 0xCC6 0xCC8, .run 0xCCA 0xCCD, .run 0xCD5 0xCD6,
   .run 0xCE2 0xCE3, .run 0xD00 0xD01, .run 0xD3B 0xD3C, .single 0xD3E, .run 0xD41 0xD44,
   .single 0xD4D, .single 0xD57, .run 0xD62 0xD63, .single 0xD81, .single 0xDCA, .single 0xDCF,
   .run 0xDD2 0xDD4, .single 0xDD6, .single 0xDDF, .single 0xE31, .run 0xE34 0xE3A,
   .run 0xE47 0xE4E, .single 0xEB1, .run 0xEB4 0xEBC, .run 0xEC8 0xECE, .run 0xF18 0xF19,
   .single 0xF35, .single 0xF37, .single 0xF39, .run 0xF71 0xF7E, .run 0xF80 0xF84,
   .run 0xF86 0xF87, .run 0xF8D 0xF97, .run 0xF99 0xFBC, .single 0xFC6, .run 0x102D 0x1030,
   .run 0x1032 0x1037, .run 0x1039 0x103A, .run 0x103D 0x103E, .run 0x1058 0x1059,
   .run 0x105E 0x1060, .run 0x1071 0x1074, .single 0x1082, .run 0x1085 0x1086, .single 0x108D,
   .single 0x109D, .run 0x135D 0x135F, .run 0x1712 0x1715, .run 0x1732 0x1734, .run 0x1752 0x1753,
   .run 0x1772 0x1773, .run 0x17B4 0x17B5, .run 0x17B7 0x17BD, .single 0x17C6, .run 0x17C9 0x17D3,
   .single 0x17DD, .run 0x180B 0x180D, .single 0x180F, .run 0x1885 0x1886, .single 0x18A9,
   .run 0x1920 0x1922, .run 0x1927 0x1928, .single 0x1932, .run 0x1939 0x193B, .run 0x1A17 0x1A18,
   .single 0x1A1B, .single 0x1A56, .run 0x1A58 0x1A5E, .single 0x1A60, .single 0x1A62,
   .run 0x1A65 0x1A6C, .run 0x1A73 0x1A7C, .single 0x1A7F, .run 0x1AB0 0x1ADD, .run 0x1AE0 0x1AEB,
   .run 0x1B00 0x1B03, .run 0x1B34 0x1B3D, .run 0x1B42 0x1B44, .run 0x1B6B 0x1B73,
   .run 0x1B80 0x1B81, .run 0x1BA2 0x1BA5, .run 0x1BA8 0x1BAD, .single 0x1BE6, .run 0x1BE8 0x1BE9,
   .single 0x1BED, .run 0x1BEF 0x1BF3, .run 0x1C2C 0x1C33, .run 0x1C36 0x1C37, .run 0x1CD0 0x1CD2,
   .run 0x1CD4 0x1CE0, .run 0x1CE2 0x1CE8, .single 0x1CED, .single 0x1CF4, .run 0x1CF8 0x1CF9,
   .run 0x1DC0 0x1DFF, .single 0x200C, .run 0x20D0 0x20F0, .run 0x2CEF 0x2CF1, .single 0x2D7F,
   .run 0x2DE0 0x2DFF, .run 0x302A 0x302F, .run 0x3099 0x309A, .run 0xA66F 0xA672,
   .run 0xA674 0xA67D, .run 0xA69E 0xA69F, .run 0xA6F0 0xA6F1, .single 0xA802, .single 0xA806,
   .single 0xA80B, .run 0xA825 0xA826, .single 0xA82C, .run 0xA8C4 0xA8C5, .run 0xA8E0 0xA8F1,
   .single 0xA8FF, .run 0xA926 0xA92D, .run 0xA947 0xA951, .single 0xA953, .run 0xA980 0xA982,
   .single 0xA9B3, .run 0xA9B6 0xA9B9, .run 0xA9BC 0xA9BD, .single 0xA9C0, .single 0xA9E5,
   .run 0xAA29 0xAA2E, .run 0xAA31 0xAA32, .run 0xAA35 0xAA36, .single 0xAA43, .single 0xAA4C,
   .single 0xAA7C, .single 0xAAB0, .run 0xAAB2 0xAAB4, .run 0xAAB7 0xAAB8, .run 0xAABE 0xAABF,
   .single 0xAAC1, .run 0xAAEC 0xAAED, .single 0xAAF6, .single 0xABE5, .single 0xABE8,
   .single 0xABED, .single 0xFB1E, .run 0xFE00 0xFE0F, .run 0xFE20 0xFE2F, .single 0x101FD,
   .single 0x102E0, .run 0x10376 0x1037A, .run 0x10A01 0x10A03, .run 0x10A05 0x10A06,
   .run 0x10A0C 0x10A0F, .run 0x10A38 0x10A3A, .single 0x10A3F, .run 0x10AE5 0x10AE6,
   .run 0x10D24 0x10D27, .run 0x10D69 0x10D6D, .run 0x10EAB 0x10EAC, .run 0x10EFA 0x10EFF,
   .run 0x10F46 0x10F50, .run 0x10F82 0x10F85, .single 0x11001, .run 0x11038 0x11046,
   .single 0x11070, .run 0x11073 0x11074, .run 0x1107F 0x11081, .run 0x110B3 0x110B6,
   .run 0x110B9 0x110BA, .single 0x110C2, .run 0x11100 0x11102, .run 0x11127 0x1112B,
   .run 0x1112D 0x11134, .single 0x11173, .run 0x11180 0x11181, .run 0x111B6 0x111BE,
   .single 0x111C0, .run 0x111C9 0x111CC, .single 0x111CF, .run 0x1122F 0x11231,
   .run 0x11234 0x11237, .single 0x1123E, .single 0x11241, .single 0x112DF, .run 0x112E3 0x112EA,
   .run 0x11300 0x11301, .run 0x1133B 0x1133C, .single 0x1133E, .single 0x11340, .single 0x1134D,
   .single 0x11357, .run 0x11366 0x1136C, .run 0x11370 0x11374, .single 0x113B8,
   .run 0x113BB 0x113C0, .single 0x113C2, .single 0x113C5, .run 0x113C7 0x113C9,
   .run 0x113CE 0x113D0, .single 0x113D2, .run 0x113E1 0x113E2, .run 0x11438 0x1143F,
   .run 0x11442 0x11444, .single 0x11446, .single 0x1145E, .single 0x114B0, .run 0x114B3 0x114B8,
   .single 0x114BA, .single 0x114BD, .run 0x114BF 0x114C0, .run 0x114C2 0x114C3, .single 0x115AF,
   .run 0x115B2 0x115B5, .run 0x115BC 0x115BD, .run 0x115BF 0x115C0, .run 0x115DC 0x115DD,
   .run 0x11633 0x1163A, .single 0x1163D, .run 0x1163F 0x11640, .single 0x116AB, .single 0x116AD,
   .run 0x116B0 0x116B7, .single 0x1171D, .single 0x1171F, .run 0x11722 0x11725,
   .run 0x11727 0x1172B, .run 0x1182F 0x11837, .run 0x11839 0x1183A, .single 0x11930,
   .run 0x1193B 0x1193E, .single 0x11943, .run 0x119D4 0x119D7, .run 0x119DA 0x119DB,
   .single 0x119E0, .run 0x11A01 0x11A0A, .run 0x11A33 0x11A38, .run 0x11A3B 0x11A3E,
   .single 0x11A47, .run 0x11A51 0x11A56, .run 0x11A59 0x11A5B, .run 0x11A8A 0x11A96,
   .run 0x11A98 0x11A99, .single 0x11B60, .run 0x11B62 0x11B64, .single 0x11B66,
   .run 0x11C30 0x11C36, .run 0x11C38 0x11C3D, .single 0x11C3F, .run 0x11C92 0x11CA7,
   .run 0x11CAA 0x11CB0, .run 0x11CB2 0x11CB3, .run 0x11CB5 0x11CB6, .run 0x11D31 0x11D36,
   .single 0x11D3A, .run 0x11D3C 0x11D3D, .run 0x11D3F 0x11D45, .single 0x11D47,
   .run 0x11D90 0x11D91, .single 0x11D95, .single 0x11D97, .run 0x11EF3 0x11EF4,
   .run 0x11F00 0x11F01, .run 0x11F36 0x11F3A, .run 0x11F40 0x11F42, .single 0x11F5A,
   .single 0x13440, .run 0x13447 0x13455, .run 0x1611E 0x16129, .run 0x1612D 0x1612F,
   .run 0x16AF0 0x16AF4, .run 0x16B30 0x16B36, .single 0x16F4F, .run 0x16F8F 0x16F92,
   .single 0x16FE4, .run 0x16FF0 0x16FF1, .run 0x1BC9D 0x1BC9E, .run 0x1CF00 0x1CF2D,
   .run 0x1CF30 0x1CF46, .run 0x1D165 0x1D169, .run 0x1D16D 0x1D172, .run 0x1D17B 0x1D182,
   .run 0x1D185 0x1D18B, .run 0x1D1AA 0x1D1AD, .run 0x1D242 0x1D244, .run 0x1DA00 0x1DA36,
   .run 0x1DA3B 0x1DA6C, .single 0x1DA75, .single 0x1DA84, .run 0x1DA9B 0x1DA9F,
   .run 0x1DAA1 0x1DAAF, .run 0x1E000 0x1E006, .run 0x1E008 0x1E018, .run 0x1E01B 0x1E021,
   .run 0x1E023 0x1E024, .run 0x1E026 0x1E02A, .single 0x1E08F, .run 0x1E130 0x1E136,
   .single 0x1E2AE, .run 0x1E2EC 0x1E2EF, .run 0x1E4EC 0x1E4EF, .run 0x1E5EE 0x1E5EF,
   .single 0x1E6E3, .single 0x1E6E6, .run 0x1E6EE 0x1E6EF, .single 0x1E6F5, .run 0x1E8D0 0x1E8D6,
   .run 0x1E944 0x1E94A, .run 0xE0020 0xE007F, .run 0xE0100 0xE01EF]

/-- The characters of the general categories Cc, Cf, Co, Cn, Zl, Zp and Zs, without the plain blank,
    and those with the property Default_Ignorable_Code_Point, such as the Hangul fillers, in
    order. -/
def unprintableRanges : List CodeRange :=
  [.run 0x0 0x1F, .run 0x7F 0xA0, .single 0xAD, .single 0x34F, .run 0x378 0x379, .run 0x380 0x383,
   .single 0x38B, .single 0x38D, .single 0x3A2, .single 0x530, .run 0x557 0x558, .run 0x58B 0x58C,
   .single 0x590, .run 0x5C8 0x5CF, .run 0x5EB 0x5EE, .run 0x5F5 0x605, .single 0x61C,
   .single 0x6DD, .run 0x70E 0x70F, .run 0x74B 0x74C, .run 0x7B2 0x7BF, .run 0x7FB 0x7FC,
   .run 0x82E 0x82F, .single 0x83F, .run 0x85C 0x85D, .single 0x85F, .run 0x86B 0x86F,
   .run 0x890 0x896, .single 0x8E2, .single 0x984, .run 0x98D 0x98E, .run 0x991 0x992,
   .single 0x9A9, .single 0x9B1, .run 0x9B3 0x9B5, .run 0x9BA 0x9BB, .run 0x9C5 0x9C6,
   .run 0x9C9 0x9CA, .run 0x9CF 0x9D6, .run 0x9D8 0x9DB, .single 0x9DE, .run 0x9E4 0x9E5,
   .run 0x9FF 0xA00, .single 0xA04, .run 0xA0B 0xA0E, .run 0xA11 0xA12, .single 0xA29,
   .single 0xA31, .single 0xA34, .single 0xA37, .run 0xA3A 0xA3B, .single 0xA3D, .run 0xA43 0xA46,
   .run 0xA49 0xA4A, .run 0xA4E 0xA50, .run 0xA52 0xA58, .single 0xA5D, .run 0xA5F 0xA65,
   .run 0xA77 0xA80, .single 0xA84, .single 0xA8E, .single 0xA92, .single 0xAA9, .single 0xAB1,
   .single 0xAB4, .run 0xABA 0xABB, .single 0xAC6, .single 0xACA, .run 0xACE 0xACF,
   .run 0xAD1 0xADF, .run 0xAE4 0xAE5, .run 0xAF2 0xAF8, .single 0xB00, .single 0xB04,
   .run 0xB0D 0xB0E, .run 0xB11 0xB12, .single 0xB29, .single 0xB31, .single 0xB34,
   .run 0xB3A 0xB3B, .run 0xB45 0xB46, .run 0xB49 0xB4A, .run 0xB4E 0xB54, .run 0xB58 0xB5B,
   .single 0xB5E, .run 0xB64 0xB65, .run 0xB78 0xB81, .single 0xB84, .run 0xB8B 0xB8D,
   .single 0xB91, .run 0xB96 0xB98, .single 0xB9B, .single 0xB9D, .run 0xBA0 0xBA2,
   .run 0xBA5 0xBA7, .run 0xBAB 0xBAD, .run 0xBBA 0xBBD, .run 0xBC3 0xBC5, .single 0xBC9,
   .run 0xBCE 0xBCF, .run 0xBD1 0xBD6, .run 0xBD8 0xBE5, .run 0xBFB 0xBFF, .single 0xC0D,
   .single 0xC11, .single 0xC29, .run 0xC3A 0xC3B, .single 0xC45, .single 0xC49, .run 0xC4E 0xC54,
   .single 0xC57, .single 0xC5B, .run 0xC5E 0xC5F, .run 0xC64 0xC65, .run 0xC70 0xC76,
   .single 0xC8D, .single 0xC91, .single 0xCA9, .single 0xCB4, .run 0xCBA 0xCBB, .single 0xCC5,
   .single 0xCC9, .run 0xCCE 0xCD4, .run 0xCD7 0xCDB, .single 0xCDF, .run 0xCE4 0xCE5,
   .single 0xCF0, .run 0xCF4 0xCFF, .single 0xD0D, .single 0xD11, .single 0xD45, .single 0xD49,
   .run 0xD50 0xD53, .run 0xD64 0xD65, .single 0xD80, .single 0xD84, .run 0xD97 0xD99,
   .single 0xDB2, .single 0xDBC, .run 0xDBE 0xDBF, .run 0xDC7 0xDC9, .run 0xDCB 0xDCE,
   .single 0xDD5, .single 0xDD7, .run 0xDE0 0xDE5, .run 0xDF0 0xDF1, .run 0xDF5 0xE00,
   .run 0xE3B 0xE3E, .run 0xE5C 0xE80, .single 0xE83, .single 0xE85, .single 0xE8B, .single 0xEA4,
   .single 0xEA6, .run 0xEBE 0xEBF, .single 0xEC5, .single 0xEC7, .single 0xECF, .run 0xEDA 0xEDB,
   .run 0xEE0 0xEFF, .single 0xF48, .run 0xF6D 0xF70, .single 0xF98, .single 0xFBD, .single 0xFCD,
   .run 0xFDB 0xFFF, .single 0x10C6, .run 0x10C8 0x10CC, .run 0x10CE 0x10CF, .run 0x115F 0x1160,
   .single 0x1249, .run 0x124E 0x124F, .single 0x1257, .single 0x1259, .run 0x125E 0x125F,
   .single 0x1289, .run 0x128E 0x128F, .single 0x12B1, .run 0x12B6 0x12B7, .single 0x12BF,
   .single 0x12C1, .run 0x12C6 0x12C7, .single 0x12D7, .single 0x1311, .run 0x1316 0x1317,
   .run 0x135B 0x135C, .run 0x137D 0x137F, .run 0x139A 0x139F, .run 0x13F6 0x13F7,
   .run 0x13FE 0x13FF, .single 0x1680, .run 0x169D 0x169F, .run 0x16F9 0x16FF, .run 0x1716 0x171E,
   .run 0x1737 0x173F, .run 0x1754 0x175F, .single 0x176D, .single 0x1771, .run 0x1774 0x177F,
   .run 0x17B4 0x17B5, .run 0x17DE 0x17DF, .run 0x17EA 0x17EF, .run 0x17FA 0x17FF,
   .run 0x180B 0x180F, .run 0x181A 0x181F, .run 0x1879 0x187F, .run 0x18AB 0x18AF,
   .run 0x18F6 0x18FF, .single 0x191F, .run 0x192C 0x192F, .run 0x193C 0x193F, .run 0x1941 0x1943,
   .run 0x196E 0x196F, .run 0x1975 0x197F, .run 0x19AC 0x19AF, .run 0x19CA 0x19CF,
   .run 0x19DB 0x19DD, .run 0x1A1C 0x1A1D, .single 0x1A5F, .run 0x1A7D 0x1A7E, .run 0x1A8A 0x1A8F,
   .run 0x1A9A 0x1A9F, .run 0x1AAE 0x1AAF, .run 0x1ADE 0x1ADF, .run 0x1AEC 0x1AFF, .single 0x1B4D,
   .run 0x1BF4 0x1BFB, .run 0x1C38 0x1C3A, .run 0x1C4A 0x1C4C, .run 0x1C8B 0x1C8F,
   .run 0x1CBB 0x1CBC, .run 0x1CC8 0x1CCF, .run 0x1CFB 0x1CFF, .run 0x1F16 0x1F17,
   .run 0x1F1E 0x1F1F, .run 0x1F46 0x1F47, .run 0x1F4E 0x1F4F, .single 0x1F58, .single 0x1F5A,
   .single 0x1F5C, .single 0x1F5E, .run 0x1F7E 0x1F7F, .single 0x1FB5, .single 0x1FC5,
   .run 0x1FD4 0x1FD5, .single 0x1FDC, .run 0x1FF0 0x1FF1, .single 0x1FF5, .run 0x1FFF 0x200F,
   .run 0x2028 0x202F, .run 0x205F 0x206F, .run 0x2072 0x2073, .single 0x208F, .run 0x209D 0x209F,
   .run 0x20C2 0x20CF, .run 0x20F1 0x20FF, .run 0x218C 0x218F, .run 0x242A 0x243F,
   .run 0x244B 0x245F, .run 0x2B74 0x2B75, .run 0x2CF4 0x2CF8, .single 0x2D26, .run 0x2D28 0x2D2C,
   .run 0x2D2E 0x2D2F, .run 0x2D68 0x2D6E, .run 0x2D71 0x2D7E, .run 0x2D97 0x2D9F, .single 0x2DA7,
   .single 0x2DAF, .single 0x2DB7, .single 0x2DBF, .single 0x2DC7, .single 0x2DCF, .single 0x2DD7,
   .single 0x2DDF, .run 0x2E5E 0x2E7F, .single 0x2E9A, .run 0x2EF4 0x2EFF, .run 0x2FD6 0x2FEF,
   .single 0x3000, .single 0x3040, .run 0x3097 0x3098, .run 0x3100 0x3104, .single 0x3130,
   .single 0x3164, .single 0x318F, .run 0x31E6 0x31EE, .single 0x321F, .run 0xA48D 0xA48F,
   .run 0xA4C7 0xA4CF, .run 0xA62C 0xA63F, .run 0xA6F8 0xA6FF, .run 0xA7DD 0xA7F0,
   .run 0xA82D 0xA82F, .run 0xA83A 0xA83F, .run 0xA878 0xA87F, .run 0xA8C6 0xA8CD,
   .run 0xA8DA 0xA8DF, .run 0xA954 0xA95E, .run 0xA97D 0xA97F, .single 0xA9CE, .run 0xA9DA 0xA9DD,
   .single 0xA9FF, .run 0xAA37 0xAA3F, .run 0xAA4E 0xAA4F, .run 0xAA5A 0xAA5B, .run 0xAAC3 0xAADA,
   .run 0xAAF7 0xAB00, .run 0xAB07 0xAB08, .run 0xAB0F 0xAB10, .run 0xAB17 0xAB1F, .single 0xAB27,
   .single 0xAB2F, .run 0xAB6C 0xAB6F, .run 0xABEE 0xABEF, .run 0xABFA 0xABFF, .run 0xD7A4 0xD7AF,
   .run 0xD7C7 0xD7CA, .run 0xD7FC 0xD7FF, .run 0xE000 0xF8FF, .run 0xFA6E 0xFA6F,
   .run 0xFADA 0xFAFF, .run 0xFB07 0xFB12, .run 0xFB18 0xFB1C, .single 0xFB37, .single 0xFB3D,
   .single 0xFB3F, .single 0xFB42, .single 0xFB45, .run 0xFDD0 0xFDEF, .run 0xFE00 0xFE0F,
   .run 0xFE1A 0xFE1F, .single 0xFE53, .single 0xFE67, .run 0xFE6C 0xFE6F, .single 0xFE75,
   .run 0xFEFD 0xFF00, .single 0xFFA0, .run 0xFFBF 0xFFC1, .run 0xFFC8 0xFFC9, .run 0xFFD0 0xFFD1,
   .run 0xFFD8 0xFFD9, .run 0xFFDD 0xFFDF, .single 0xFFE7, .run 0xFFEF 0xFFFB, .run 0xFFFE 0xFFFF,
   .single 0x1000C, .single 0x10027, .single 0x1003B, .single 0x1003E, .run 0x1004E 0x1004F,
   .run 0x1005E 0x1007F, .run 0x100FB 0x100FF, .run 0x10103 0x10106, .run 0x10134 0x10136,
   .single 0x1018F, .run 0x1019D 0x1019F, .run 0x101A1 0x101CF, .run 0x101FE 0x1027F,
   .run 0x1029D 0x1029F, .run 0x102D1 0x102DF, .run 0x102FC 0x102FF, .run 0x10324 0x1032C,
   .run 0x1034B 0x1034F, .run 0x1037B 0x1037F, .single 0x1039E, .run 0x103C4 0x103C7,
   .run 0x103D6 0x103FF, .run 0x1049E 0x1049F, .run 0x104AA 0x104AF, .run 0x104D4 0x104D7,
   .run 0x104FC 0x104FF, .run 0x10528 0x1052F, .run 0x10564 0x1056E, .single 0x1057B,
   .single 0x1058B, .single 0x10593, .single 0x10596, .single 0x105A2, .single 0x105B2,
   .single 0x105BA, .run 0x105BD 0x105BF, .run 0x105F4 0x105FF, .run 0x10737 0x1073F,
   .run 0x10756 0x1075F, .run 0x10768 0x1077F, .single 0x10786, .single 0x107B1,
   .run 0x107BB 0x107FF, .run 0x10806 0x10807, .single 0x10809, .single 0x10836,
   .run 0x10839 0x1083B, .run 0x1083D 0x1083E, .single 0x10856, .run 0x1089F 0x108A6,
   .run 0x108B0 0x108DF, .single 0x108F3, .run 0x108F6 0x108FA, .run 0x1091C 0x1091E,
   .run 0x1093A 0x1093E, .run 0x1095A 0x1097F, .run 0x109B8 0x109BB, .run 0x109D0 0x109D1,
   .single 0x10A04, .run 0x10A07 0x10A0B, .single 0x10A14, .single 0x10A18, .run 0x10A36 0x10A37,
   .run 0x10A3B 0x10A3E, .run 0x10A49 0x10A4F, .run 0x10A59 0x10A5F, .run 0x10AA0 0x10ABF,
   .run 0x10AE7 0x10AEA, .run 0x10AF7 0x10AFF, .run 0x10B36 0x10B38, .run 0x10B56 0x10B57,
   .run 0x10B73 0x10B77, .run 0x10B92 0x10B98, .run 0x10B9D 0x10BA8, .run 0x10BB0 0x10BFF,
   .run 0x10C49 0x10C7F, .run 0x10CB3 0x10CBF, .run 0x10CF3 0x10CF9, .run 0x10D28 0x10D2F,
   .run 0x10D3A 0x10D3F, .run 0x10D66 0x10D68, .run 0x10D86 0x10D8D, .run 0x10D90 0x10E5F,
   .single 0x10E7F, .single 0x10EAA, .run 0x10EAE 0x10EAF, .run 0x10EB2 0x10EC1,
   .run 0x10EC8 0x10ECF, .run 0x10ED9 0x10EF9, .run 0x10F28 0x10F2F, .run 0x10F5A 0x10F6F,
   .run 0x10F8A 0x10FAF, .run 0x10FCC 0x10FDF, .run 0x10FF7 0x10FFF, .run 0x1104E 0x11051,
   .run 0x11076 0x1107E, .single 0x110BD, .run 0x110C3 0x110CF, .run 0x110E9 0x110EF,
   .run 0x110FA 0x110FF, .single 0x11135, .run 0x11148 0x1114F, .run 0x11177 0x1117F,
   .single 0x111E0, .run 0x111F5 0x111FF, .single 0x11212, .run 0x11242 0x1127F, .single 0x11287,
   .single 0x11289, .single 0x1128E, .single 0x1129E, .run 0x112AA 0x112AF, .run 0x112EB 0x112EF,
   .run 0x112FA 0x112FF, .single 0x11304, .run 0x1130D 0x1130E, .run 0x11311 0x11312,
   .single 0x11329, .single 0x11331, .single 0x11334, .single 0x1133A, .run 0x11345 0x11346,
   .run 0x11349 0x1134A, .run 0x1134E 0x1134F, .run 0x11351 0x11356, .run 0x11358 0x1135C,
   .run 0x11364 0x11365, .run 0x1136D 0x1136F, .run 0x11375 0x1137F, .single 0x1138A,
   .run 0x1138C 0x1138D, .single 0x1138F, .single 0x113B6, .single 0x113C1, .run 0x113C3 0x113C4,
   .single 0x113C6, .single 0x113CB, .single 0x113D6, .run 0x113D9 0x113E0, .run 0x113E3 0x113FF,
   .single 0x1145C, .run 0x11462 0x1147F, .run 0x114C8 0x114CF, .run 0x114DA 0x1157F,
   .run 0x115B6 0x115B7, .run 0x115DE 0x115FF, .run 0x11645 0x1164F, .run 0x1165A 0x1165F,
   .run 0x1166D 0x1167F, .run 0x116BA 0x116BF, .run 0x116CA 0x116CF, .run 0x116E4 0x116FF,
   .run 0x1171B 0x1171C, .run 0x1172C 0x1172F, .run 0x11747 0x117FF, .run 0x1183C 0x1189F,
   .run 0x118F3 0x118FE, .run 0x11907 0x11908, .run 0x1190A 0x1190B, .single 0x11914,
   .single 0x11917, .single 0x11936, .run 0x11939 0x1193A, .run 0x11947 0x1194F,
   .run 0x1195A 0x1199F, .run 0x119A8 0x119A9, .run 0x119D8 0x119D9, .run 0x119E5 0x119FF,
   .run 0x11A48 0x11A4F, .run 0x11AA3 0x11AAF, .run 0x11AF9 0x11AFF, .run 0x11B0A 0x11B5F,
   .run 0x11B68 0x11BBF, .run 0x11BE2 0x11BEF, .run 0x11BFA 0x11BFF, .single 0x11C09,
   .single 0x11C37, .run 0x11C46 0x11C4F, .run 0x11C6D 0x11C6F, .run 0x11C90 0x11C91,
   .single 0x11CA8, .run 0x11CB7 0x11CFF, .single 0x11D07, .single 0x11D0A, .run 0x11D37 0x11D39,
   .single 0x11D3B, .single 0x11D3E, .run 0x11D48 0x11D4F, .run 0x11D5A 0x11D5F, .single 0x11D66,
   .single 0x11D69, .single 0x11D8F, .single 0x11D92, .run 0x11D99 0x11D9F, .run 0x11DAA 0x11DAF,
   .run 0x11DDC 0x11DDF, .run 0x11DEA 0x11EDF, .run 0x11EF9 0x11EFF, .single 0x11F11,
   .run 0x11F3B 0x11F3D, .run 0x11F5B 0x11FAF, .run 0x11FB1 0x11FBF, .run 0x11FF2 0x11FFE,
   .run 0x1239A 0x123FF, .single 0x1246F, .run 0x12475 0x1247F, .run 0x12544 0x12F8F,
   .run 0x12FF3 0x12FFF, .run 0x13430 0x1343F, .run 0x13456 0x1345F, .run 0x143FB 0x143FF,
   .run 0x14647 0x160FF, .run 0x1613A 0x167FF, .run 0x16A39 0x16A3F, .single 0x16A5F,
   .run 0x16A6A 0x16A6D, .single 0x16ABF, .run 0x16ACA 0x16ACF, .run 0x16AEE 0x16AEF,
   .run 0x16AF6 0x16AFF, .run 0x16B46 0x16B4F, .single 0x16B5A, .single 0x16B62,
   .run 0x16B78 0x16B7C, .run 0x16B90 0x16D3F, .run 0x16D7A 0x16E3F, .run 0x16E9B 0x16E9F,
   .run 0x16EB9 0x16EBA, .run 0x16ED4 0x16EFF, .run 0x16F4B 0x16F4E, .run 0x16F88 0x16F8E,
   .run 0x16FA0 0x16FDF, .run 0x16FE5 0x16FEF, .run 0x16FF7 0x16FFF, .run 0x18CD6 0x18CFE,
   .run 0x18D1F 0x18D7F, .run 0x18DF3 0x1AFEF, .single 0x1AFF4, .single 0x1AFFC, .single 0x1AFFF,
   .run 0x1B123 0x1B131, .run 0x1B133 0x1B14F, .run 0x1B153 0x1B154, .run 0x1B156 0x1B163,
   .run 0x1B168 0x1B16F, .run 0x1B2FC 0x1BBFF, .run 0x1BC6B 0x1BC6F, .run 0x1BC7D 0x1BC7F,
   .run 0x1BC89 0x1BC8F, .run 0x1BC9A 0x1BC9B, .run 0x1BCA0 0x1CBFF, .run 0x1CCFD 0x1CCFF,
   .run 0x1CEB4 0x1CEB9, .run 0x1CED1 0x1CEDF, .run 0x1CEF1 0x1CEFF, .run 0x1CF2E 0x1CF2F,
   .run 0x1CF47 0x1CF4F, .run 0x1CFC4 0x1CFFF, .run 0x1D0F6 0x1D0FF, .run 0x1D127 0x1D128,
   .run 0x1D173 0x1D17A, .run 0x1D1EB 0x1D1FF, .run 0x1D246 0x1D2BF, .run 0x1D2D4 0x1D2DF,
   .run 0x1D2F4 0x1D2FF, .run 0x1D357 0x1D35F, .run 0x1D379 0x1D3FF, .single 0x1D455,
   .single 0x1D49D, .run 0x1D4A0 0x1D4A1, .run 0x1D4A3 0x1D4A4, .run 0x1D4A7 0x1D4A8,
   .single 0x1D4AD, .single 0x1D4BA, .single 0x1D4BC, .single 0x1D4C4, .single 0x1D506,
   .run 0x1D50B 0x1D50C, .single 0x1D515, .single 0x1D51D, .single 0x1D53A, .single 0x1D53F,
   .single 0x1D545, .run 0x1D547 0x1D549, .single 0x1D551, .run 0x1D6A6 0x1D6A7,
   .run 0x1D7CC 0x1D7CD, .run 0x1DA8C 0x1DA9A, .single 0x1DAA0, .run 0x1DAB0 0x1DEFF,
   .run 0x1DF1F 0x1DF24, .run 0x1DF2B 0x1DFFF, .single 0x1E007, .run 0x1E019 0x1E01A,
   .single 0x1E022, .single 0x1E025, .run 0x1E02B 0x1E02F, .run 0x1E06E 0x1E08E,
   .run 0x1E090 0x1E0FF, .run 0x1E12D 0x1E12F, .run 0x1E13E 0x1E13F, .run 0x1E14A 0x1E14D,
   .run 0x1E150 0x1E28F, .run 0x1E2AF 0x1E2BF, .run 0x1E2FA 0x1E2FE, .run 0x1E300 0x1E4CF,
   .run 0x1E4FA 0x1E5CF, .run 0x1E5FB 0x1E5FE, .run 0x1E600 0x1E6BF, .single 0x1E6DF,
   .run 0x1E6F6 0x1E6FD, .run 0x1E700 0x1E7DF, .single 0x1E7E7, .single 0x1E7EC, .single 0x1E7EF,
   .single 0x1E7FF, .run 0x1E8C5 0x1E8C6, .run 0x1E8D7 0x1E8FF, .run 0x1E94C 0x1E94F,
   .run 0x1E95A 0x1E95D, .run 0x1E960 0x1EC70, .run 0x1ECB5 0x1ED00, .run 0x1ED3E 0x1EDFF,
   .single 0x1EE04, .single 0x1EE20, .single 0x1EE23, .run 0x1EE25 0x1EE26, .single 0x1EE28,
   .single 0x1EE33, .single 0x1EE38, .single 0x1EE3A, .run 0x1EE3C 0x1EE41, .run 0x1EE43 0x1EE46,
   .single 0x1EE48, .single 0x1EE4A, .single 0x1EE4C, .single 0x1EE50, .single 0x1EE53,
   .run 0x1EE55 0x1EE56, .single 0x1EE58, .single 0x1EE5A, .single 0x1EE5C, .single 0x1EE5E,
   .single 0x1EE60, .single 0x1EE63, .run 0x1EE65 0x1EE66, .single 0x1EE6B, .single 0x1EE73,
   .single 0x1EE78, .single 0x1EE7D, .single 0x1EE7F, .single 0x1EE8A, .run 0x1EE9C 0x1EEA0,
   .single 0x1EEA4, .single 0x1EEAA, .run 0x1EEBC 0x1EEEF, .run 0x1EEF2 0x1EFFF,
   .run 0x1F02C 0x1F02F, .run 0x1F094 0x1F09F, .run 0x1F0AF 0x1F0B0, .single 0x1F0C0,
   .single 0x1F0D0, .run 0x1F0F6 0x1F0FF, .run 0x1F1AE 0x1F1E5, .run 0x1F203 0x1F20F,
   .run 0x1F23C 0x1F23F, .run 0x1F249 0x1F24F, .run 0x1F252 0x1F25F, .run 0x1F266 0x1F2FF,
   .run 0x1F6D9 0x1F6DB, .run 0x1F6ED 0x1F6EF, .run 0x1F6FD 0x1F6FF, .run 0x1F7DA 0x1F7DF,
   .run 0x1F7EC 0x1F7EF, .run 0x1F7F1 0x1F7FF, .run 0x1F80C 0x1F80F, .run 0x1F848 0x1F84F,
   .run 0x1F85A 0x1F85F, .run 0x1F888 0x1F88F, .run 0x1F8AE 0x1F8AF, .run 0x1F8BC 0x1F8BF,
   .run 0x1F8C2 0x1F8CF, .run 0x1F8D9 0x1F8FF, .run 0x1FA58 0x1FA5F, .run 0x1FA6E 0x1FA6F,
   .run 0x1FA7D 0x1FA7F, .run 0x1FA8B 0x1FA8D, .single 0x1FAC7, .run 0x1FAC9 0x1FACC,
   .run 0x1FADD 0x1FADE, .run 0x1FAEB 0x1FAEE, .run 0x1FAF9 0x1FAFF, .single 0x1FB93,
   .run 0x1FBFB 0x1FFFF, .run 0x2A6E0 0x2A6FF, .run 0x2B81E 0x2B81F, .run 0x2CEAE 0x2CEAF,
   .run 0x2EBE1 0x2EBEF, .run 0x2EE5E 0x2F7FF, .run 0x2FA1E 0x2FFFF, .run 0x3134B 0x3134F,
   .run 0x3347A 0x10FFFF]

/-- A character that shows a mark of its own, or the plain blank. -/
def isVisible (c : Char) : Bool :=
  !CodeRange.covers mergingRanges c.toNat && !CodeRange.covers unprintableRanges c.toNat

end StructSchema.Unicode
