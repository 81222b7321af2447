import StructSchema.Unicode.CodeRange

/-!
# Upper and lower case

The properties Uppercase and Lowercase, which reach beyond letters (`Ⅷ`, `Ⓐ` and `ª` have one), and
the lower case form of a single character, whatever stands around it. The tables follow version 17.0
of the standard.
-/

namespace StructSchema.Unicode

/-- The uppercase characters, in increasing order. -/
def uppercaseRanges : List CodeRange :=
  [.run 0x41 0x5A, .run 0xC0 0xD6, .run 0xD8 0xDE, .alternating 0x100 0x136,
   .alternating 0x139 0x147, .alternating 0x14A 0x176, .run 0x178 0x179, .alternating 0x17B 0x17D,
   .run 0x181 0x182, .single 0x184, .run 0x186 0x187, .run 0x189 0x18B, .run 0x18E 0x191,
   .run 0x193 0x194, .run 0x196 0x198, .run 0x19C 0x19D, .run 0x19F 0x1A0, .alternating 0x1A2 0x1A4,
   .run 0x1A6 0x1A7, .single 0x1A9, .single 0x1AC, .run 0x1AE 0x1AF, .run 0x1B1 0x1B3,
   .single 0x1B5, .run 0x1B7 0x1B8, .single 0x1BC, .single 0x1C4, .single 0x1C7, .single 0x1CA,
   .alternating 0x1CD 0x1DB, .alternating 0x1DE 0x1EE, .single 0x1F1, .single 0x1F4,
   .run 0x1F6 0x1F8, .alternating 0x1FA 0x232, .run 0x23A 0x23B, .run 0x23D 0x23E, .single 0x241,
   .run 0x243 0x246, .alternating 0x248 0x24E, .alternating 0x370 0x372, .single 0x376,
   .single 0x37F, .single 0x386, .run 0x388 0x38A, .single 0x38C, .run 0x38E 0x38F,
   .run 0x391 0x3A1, .run 0x3A3 0x3AB, .single 0x3CF, .run 0x3D2 0x3D4, .alternating 0x3D8 0x3EE,
   .single 0x3F4, .single 0x3F7, .run 0x3F9 0x3FA, .run 0x3FD 0x42F, .alternating 0x460 0x480,
   .alternating 0x48A 0x4BE, .run 0x4C0 0x4C1, .alternating 0x4C3 0x4CD, .alternating 0x4D0 0x52E,
   .run 0x531 0x556, .run 0x10A0 0x10C5, .single 0x10C7, .single 0x10CD, .run 0x13A0 0x13F5,
   .single 0x1C89, .run 0x1C90 0x1CBA, .run 0x1CBD 0x1CBF, .alternating 0x1E00 0x1E94,
   .alternating 0x1E9E 0x1EFE, .run 0x1F08 0x1F0F, .run 0x1F18 0x1F1D, .run 0x1F28 0x1F2F,
   .run 0x1F38 0x1F3F, .run 0x1F48 0x1F4D, .alternating 0x1F59 0x1F5F, .run 0x1F68 0x1F6F,
   .run 0x1FB8 0x1FBB, .run 0x1FC8 0x1FCB, .run 0x1FD8 0x1FDB, .run 0x1FE8 0x1FEC,
   .run 0x1FF8 0x1FFB, .single 0x2102, .single 0x2107, .run 0x210B 0x210D, .run 0x2110 0x2112,
   .single 0x2115, .run 0x2119 0x211D, .alternating 0x2124 0x2128, .run 0x212A 0x212D,
   .run 0x2130 0x2133, .run 0x213E 0x213F, .single 0x2145, .run 0x2160 0x216F, .single 0x2183,
   .run 0x24B6 0x24CF, .run 0x2C00 0x2C2F, .single 0x2C60, .run 0x2C62 0x2C64,
   .alternating 0x2C67 0x2C6B, .run 0x2C6D 0x2C70, .single 0x2C72, .single 0x2C75,
   .run 0x2C7E 0x2C80, .alternating 0x2C82 0x2CE2, .alternating 0x2CEB 0x2CED, .single 0x2CF2,
   .alternating 0xA640 0xA66C, .alternating 0xA680 0xA69A, .alternating 0xA722 0xA72E,
   .alternating 0xA732 0xA76E, .alternating 0xA779 0xA77B, .run 0xA77D 0xA77E,
   .alternating 0xA780 0xA786, .alternating 0xA78B 0xA78D, .alternating 0xA790 0xA792,
   .alternating 0xA796 0xA7A8, .run 0xA7AA 0xA7AE, .run 0xA7B0 0xA7B4, .alternating 0xA7B6 0xA7C2,
   .run 0xA7C4 0xA7C7, .single 0xA7C9, .run 0xA7CB 0xA7CC, .alternating 0xA7CE 0xA7DC,
   .single 0xA7F5, .run 0xFF21 0xFF3A, .run 0x10400 0x10427, .run 0x104B0 0x104D3,
   .run 0x10570 0x1057A, .run 0x1057C 0x1058A, .run 0x1058C 0x10592, .run 0x10594 0x10595,
   .run 0x10C80 0x10CB2, .run 0x10D50 0x10D65, .run 0x118A0 0x118BF, .run 0x16E40 0x16E5F,
   .run 0x16EA0 0x16EB8, .run 0x1D400 0x1D419, .run 0x1D434 0x1D44D, .run 0x1D468 0x1D481,
   .single 0x1D49C, .run 0x1D49E 0x1D49F, .single 0x1D4A2, .run 0x1D4A5 0x1D4A6,
   .run 0x1D4A9 0x1D4AC, .run 0x1D4AE 0x1D4B5, .run 0x1D4D0 0x1D4E9, .run 0x1D504 0x1D505,
   .run 0x1D507 0x1D50A, .run 0x1D50D 0x1D514, .run 0x1D516 0x1D51C, .run 0x1D538 0x1D539,
   .run 0x1D53B 0x1D53E, .run 0x1D540 0x1D544, .single 0x1D546, .run 0x1D54A 0x1D550,
   .run 0x1D56C 0x1D585, .run 0x1D5A0 0x1D5B9, .run 0x1D5D4 0x1D5ED, .run 0x1D608 0x1D621,
   .run 0x1D63C 0x1D655, .run 0x1D670 0x1D689, .run 0x1D6A8 0x1D6C0, .run 0x1D6E2 0x1D6FA,
   .run 0x1D71C 0x1D734, .run 0x1D756 0x1D76E, .run 0x1D790 0x1D7A8, .single 0x1D7CA,
   .run 0x1E900 0x1E921, .run 0x1F130 0x1F149, .run 0x1F150 0x1F169, .run 0x1F170 0x1F189]

/-- The lowercase characters, in increasing order. -/
def lowercaseRanges : List CodeRange :=
  [.run 0x61 0x7A, .single 0xAA, .single 0xB5, .single 0xBA, .run 0xDF 0xF6, .run 0xF8 0xFF,
   .alternating 0x101 0x135, .run 0x137 0x138, .alternating 0x13A 0x146, .run 0x148 0x149,
   .alternating 0x14B 0x177, .alternating 0x17A 0x17C, .run 0x17E 0x180, .alternating 0x183 0x185,
   .single 0x188, .run 0x18C 0x18D, .single 0x192, .single 0x195, .run 0x199 0x19B, .single 0x19E,
   .alternating 0x1A1 0x1A5, .single 0x1A8, .run 0x1AA 0x1AB, .single 0x1AD, .single 0x1B0,
   .alternating 0x1B4 0x1B6, .run 0x1B9 0x1BA, .run 0x1BD 0x1BF, .single 0x1C6, .single 0x1C9,
   .alternating 0x1CC 0x1DA, .run 0x1DC 0x1DD, .alternating 0x1DF 0x1ED, .run 0x1EF 0x1F0,
   .alternating 0x1F3 0x1F5, .alternating 0x1F9 0x231, .run 0x233 0x239, .single 0x23C,
   .run 0x23F 0x240, .single 0x242, .alternating 0x247 0x24D, .run 0x24F 0x293, .run 0x296 0x2B8,
   .run 0x2C0 0x2C1, .run 0x2E0 0x2E4, .single 0x345, .alternating 0x371 0x373, .single 0x377,
   .run 0x37A 0x37D, .single 0x390, .run 0x3AC 0x3CE, .run 0x3D0 0x3D1, .run 0x3D5 0x3D7,
   .alternating 0x3D9 0x3ED, .run 0x3EF 0x3F3, .single 0x3F5, .single 0x3F8, .run 0x3FB 0x3FC,
   .run 0x430 0x45F, .alternating 0x461 0x481, .alternating 0x48B 0x4BF, .alternating 0x4C2 0x4CC,
   .run 0x4CE 0x4CF, .alternating 0x4D1 0x52F, .run 0x560 0x588, .run 0x10D0 0x10FA,
   .run 0x10FC 0x10FF, .run 0x13F8 0x13FD, .run 0x1C80 0x1C88, .single 0x1C8A, .run 0x1D00 0x1DBF,
   .alternating 0x1E01 0x1E93, .run 0x1E95 0x1E9D, .alternating 0x1E9F 0x1EFD, .run 0x1EFF 0x1F07,
   .run 0x1F10 0x1F15, .run 0x1F20 0x1F27, .run 0x1F30 0x1F37, .run 0x1F40 0x1F45,
   .run 0x1F50 0x1F57, .run 0x1F60 0x1F67, .run 0x1F70 0x1F7D, .run 0x1F80 0x1F87,
   .run 0x1F90 0x1F97, .run 0x1FA0 0x1FA7, .run 0x1FB0 0x1FB4, .run 0x1FB6 0x1FB7, .single 0x1FBE,
   .run 0x1FC2 0x1FC4, .run 0x1FC6 0x1FC7, .run 0x1FD0 0x1FD3, .run 0x1FD6 0x1FD7,
   .run 0x1FE0 0x1FE7, .run 0x1FF2 0x1FF4, .run 0x1FF6 0x1FF7, .single 0x2071, .single 0x207F,
   .run 0x2090 0x209C, .single 0x210A, .run 0x210E 0x210F, .single 0x2113, .single 0x212F,
   .single 0x2134, .single 0x2139, .run 0x213C 0x213D, .run 0x2146 0x2149, .single 0x214E,
   .run 0x2170 0x217F, .single 0x2184, .run 0x24D0 0x24E9, .run 0x2C30 0x2C5F, .single 0x2C61,
   .run 0x2C65 0x2C66, .alternating 0x2C68 0x2C6C, .single 0x2C71, .run 0x2C73 0x2C74,
   .run 0x2C76 0x2C7D, .alternating 0x2C81 0x2CE1, .run 0x2CE3 0x2CE4, .alternating 0x2CEC 0x2CEE,
   .single 0x2CF3, .run 0x2D00 0x2D25, .single 0x2D27, .single 0x2D2D, .alternating 0xA641 0xA66D,
   .alternating 0xA681 0xA699, .run 0xA69B 0xA69D, .alternating 0xA723 0xA72D, .run 0xA72F 0xA731,
   .alternating 0xA733 0xA76D, .run 0xA76F 0xA778, .alternating 0xA77A 0xA77C,
   .alternating 0xA77F 0xA787, .alternating 0xA78C 0xA78E, .single 0xA791, .run 0xA793 0xA795,
   .alternating 0xA797 0xA7A9, .single 0xA7AF, .alternating 0xA7B5 0xA7C3,
   .alternating 0xA7C8 0xA7CA, .alternating 0xA7CD 0xA7DB, .run 0xA7F1 0xA7F4, .single 0xA7F6,
   .run 0xA7F8 0xA7FA, .run 0xAB30 0xAB5A, .run 0xAB5C 0xAB69, .run 0xAB70 0xABBF,
   .run 0xFB00 0xFB06, .run 0xFB13 0xFB17, .run 0xFF41 0xFF5A, .run 0x10428 0x1044F,
   .run 0x104D8 0x104FB, .run 0x10597 0x105A1, .run 0x105A3 0x105B1, .run 0x105B3 0x105B9,
   .run 0x105BB 0x105BC, .single 0x10780, .run 0x10783 0x10785, .run 0x10787 0x107B0,
   .run 0x107B2 0x107BA, .run 0x10CC0 0x10CF2, .run 0x10D70 0x10D85, .run 0x118C0 0x118DF,
   .run 0x16E60 0x16E7F, .run 0x16EBB 0x16ED3, .run 0x1D41A 0x1D433, .run 0x1D44E 0x1D454,
   .run 0x1D456 0x1D467, .run 0x1D482 0x1D49B, .run 0x1D4B6 0x1D4B9, .single 0x1D4BB,
   .run 0x1D4BD 0x1D4C3, .run 0x1D4C5 0x1D4CF, .run 0x1D4EA 0x1D503, .run 0x1D51E 0x1D537,
   .run 0x1D552 0x1D56B, .run 0x1D586 0x1D59F, .run 0x1D5BA 0x1D5D3, .run 0x1D5EE 0x1D607,
   .run 0x1D622 0x1D63B, .run 0x1D656 0x1D66F, .run 0x1D68A 0x1D6A5, .run 0x1D6C2 0x1D6DA,
   .run 0x1D6DC 0x1D6E1, .run 0x1D6FC 0x1D714, .run 0x1D716 0x1D71B, .run 0x1D736 0x1D74E,
   .run 0x1D750 0x1D755, .run 0x1D770 0x1D788, .run 0x1D78A 0x1D78F, .run 0x1D7AA 0x1D7C2,
   .run 0x1D7C4 0x1D7C9, .single 0x1D7CB, .run 0x1DF00 0x1DF09, .run 0x1DF0B 0x1DF1E,
   .run 0x1DF25 0x1DF2A, .run 0x1E030 0x1E06D, .run 0x1E922 0x1E943]

/-- Code points whose lower case forms keep their distances: `source.first` becomes `target`. -/
structure LowerShift where
  source : CodeRange
  target : Nat
deriving DecidableEq, Repr

/-- The code points that have a lower case form of one character, in increasing order. -/
def lowerShifts : List LowerShift :=
  [⟨.run 0x41 0x5A, 0x61⟩, ⟨.run 0xC0 0xD6, 0xE0⟩, ⟨.run 0xD8 0xDE, 0xF8⟩,
   ⟨.alternating 0x100 0x12E, 0x101⟩, ⟨.alternating 0x132 0x136, 0x133⟩,
   ⟨.alternating 0x139 0x147, 0x13A⟩, ⟨.alternating 0x14A 0x176, 0x14B⟩, ⟨.single 0x178, 0xFF⟩,
   ⟨.alternating 0x179 0x17D, 0x17A⟩, ⟨.single 0x181, 0x253⟩, ⟨.alternating 0x182 0x184, 0x183⟩,
   ⟨.single 0x186, 0x254⟩, ⟨.single 0x187, 0x188⟩, ⟨.run 0x189 0x18A, 0x256⟩,
   ⟨.single 0x18B, 0x18C⟩, ⟨.single 0x18E, 0x1DD⟩, ⟨.single 0x18F, 0x259⟩, ⟨.single 0x190, 0x25B⟩,
   ⟨.single 0x191, 0x192⟩, ⟨.single 0x193, 0x260⟩, ⟨.single 0x194, 0x263⟩, ⟨.single 0x196, 0x269⟩,
   ⟨.single 0x197, 0x268⟩, ⟨.single 0x198, 0x199⟩, ⟨.single 0x19C, 0x26F⟩, ⟨.single 0x19D, 0x272⟩,
   ⟨.single 0x19F, 0x275⟩, ⟨.alternating 0x1A0 0x1A4, 0x1A1⟩, ⟨.single 0x1A6, 0x280⟩,
   ⟨.single 0x1A7, 0x1A8⟩, ⟨.single 0x1A9, 0x283⟩, ⟨.single 0x1AC, 0x1AD⟩, ⟨.single 0x1AE, 0x288⟩,
   ⟨.single 0x1AF, 0x1B0⟩, ⟨.run 0x1B1 0x1B2, 0x28A⟩, ⟨.alternating 0x1B3 0x1B5, 0x1B4⟩,
   ⟨.single 0x1B7, 0x292⟩, ⟨.single 0x1B8, 0x1B9⟩, ⟨.single 0x1BC, 0x1BD⟩, ⟨.single 0x1C4, 0x1C6⟩,
   ⟨.single 0x1C5, 0x1C6⟩, ⟨.single 0x1C7, 0x1C9⟩, ⟨.single 0x1C8, 0x1C9⟩, ⟨.single 0x1CA, 0x1CC⟩,
   ⟨.alternating 0x1CB 0x1DB, 0x1CC⟩, ⟨.alternating 0x1DE 0x1EE, 0x1DF⟩, ⟨.single 0x1F1, 0x1F3⟩,
   ⟨.alternating 0x1F2 0x1F4, 0x1F3⟩, ⟨.single 0x1F6, 0x195⟩, ⟨.single 0x1F7, 0x1BF⟩,
   ⟨.alternating 0x1F8 0x21E, 0x1F9⟩, ⟨.single 0x220, 0x19E⟩, ⟨.alternating 0x222 0x232, 0x223⟩,
   ⟨.single 0x23A, 0x2C65⟩, ⟨.single 0x23B, 0x23C⟩, ⟨.single 0x23D, 0x19A⟩, ⟨.single 0x23E, 0x2C66⟩,
   ⟨.single 0x241, 0x242⟩, ⟨.single 0x243, 0x180⟩, ⟨.single 0x244, 0x289⟩, ⟨.single 0x245, 0x28C⟩,
   ⟨.alternating 0x246 0x24E, 0x247⟩, ⟨.alternating 0x370 0x372, 0x371⟩, ⟨.single 0x376, 0x377⟩,
   ⟨.single 0x37F, 0x3F3⟩, ⟨.single 0x386, 0x3AC⟩, ⟨.run 0x388 0x38A, 0x3AD⟩,
   ⟨.single 0x38C, 0x3CC⟩, ⟨.run 0x38E 0x38F, 0x3CD⟩, ⟨.run 0x391 0x3A1, 0x3B1⟩,
   ⟨.run 0x3A3 0x3AB, 0x3C3⟩, ⟨.single 0x3CF, 0x3D7⟩, ⟨.alternating 0x3D8 0x3EE, 0x3D9⟩,
   ⟨.single 0x3F4, 0x3B8⟩, ⟨.single 0x3F7, 0x3F8⟩, ⟨.single 0x3F9, 0x3F2⟩, ⟨.single 0x3FA, 0x3FB⟩,
   ⟨.run 0x3FD 0x3FF, 0x37B⟩, ⟨.run 0x400 0x40F, 0x450⟩, ⟨.run 0x410 0x42F, 0x430⟩,
   ⟨.alternating 0x460 0x480, 0x461⟩, ⟨.alternating 0x48A 0x4BE, 0x48B⟩, ⟨.single 0x4C0, 0x4CF⟩,
   ⟨.alternating 0x4C1 0x4CD, 0x4C2⟩, ⟨.alternating 0x4D0 0x52E, 0x4D1⟩, ⟨.run 0x531 0x556, 0x561⟩,
   ⟨.run 0x10A0 0x10C5, 0x2D00⟩, ⟨.single 0x10C7, 0x2D27⟩, ⟨.single 0x10CD, 0x2D2D⟩,
   ⟨.run 0x13A0 0x13EF, 0xAB70⟩, ⟨.run 0x13F0 0x13F5, 0x13F8⟩, ⟨.single 0x1C89, 0x1C8A⟩,
   ⟨.run 0x1C90 0x1CBA, 0x10D0⟩, ⟨.run 0x1CBD 0x1CBF, 0x10FD⟩, ⟨.alternating 0x1E00 0x1E94, 0x1E01⟩,
   ⟨.single 0x1E9E, 0xDF⟩, ⟨.alternating 0x1EA0 0x1EFE, 0x1EA1⟩, ⟨.run 0x1F08 0x1F0F, 0x1F00⟩,
   ⟨.run 0x1F18 0x1F1D, 0x1F10⟩, ⟨.run 0x1F28 0x1F2F, 0x1F20⟩, ⟨.run 0x1F38 0x1F3F, 0x1F30⟩,
   ⟨.run 0x1F48 0x1F4D, 0x1F40⟩, ⟨.alternating 0x1F59 0x1F5F, 0x1F51⟩, ⟨.run 0x1F68 0x1F6F, 0x1F60⟩,
   ⟨.run 0x1F88 0x1F8F, 0x1F80⟩, ⟨.run 0x1F98 0x1F9F, 0x1F90⟩, ⟨.run 0x1FA8 0x1FAF, 0x1FA0⟩,
   ⟨.run 0x1FB8 0x1FB9, 0x1FB0⟩, ⟨.run 0x1FBA 0x1FBB, 0x1F70⟩, ⟨.single 0x1FBC, 0x1FB3⟩,
   ⟨.run 0x1FC8 0x1FCB, 0x1F72⟩, ⟨.single 0x1FCC, 0x1FC3⟩, ⟨.run 0x1FD8 0x1FD9, 0x1FD0⟩,
   ⟨.run 0x1FDA 0x1FDB, 0x1F76⟩, ⟨.run 0x1FE8 0x1FE9, 0x1FE0⟩, ⟨.run 0x1FEA 0x1FEB, 0x1F7A⟩,
   ⟨.single 0x1FEC, 0x1FE5⟩, ⟨.run 0x1FF8 0x1FF9, 0x1F78⟩, ⟨.run 0x1FFA 0x1FFB, 0x1F7C⟩,
   ⟨.single 0x1FFC, 0x1FF3⟩, ⟨.single 0x2126, 0x3C9⟩, ⟨.single 0x212A, 0x6B⟩,
   ⟨.single 0x212B, 0xE5⟩, ⟨.single 0x2132, 0x214E⟩, ⟨.run 0x2160 0x216F, 0x2170⟩,
   ⟨.single 0x2183, 0x2184⟩, ⟨.run 0x24B6 0x24CF, 0x24D0⟩, ⟨.run 0x2C00 0x2C2F, 0x2C30⟩,
   ⟨.single 0x2C60, 0x2C61⟩, ⟨.single 0x2C62, 0x26B⟩, ⟨.single 0x2C63, 0x1D7D⟩,
   ⟨.single 0x2C64, 0x27D⟩, ⟨.alternating 0x2C67 0x2C6B, 0x2C68⟩, ⟨.single 0x2C6D, 0x251⟩,
   ⟨.single 0x2C6E, 0x271⟩, ⟨.single 0x2C6F, 0x250⟩, ⟨.single 0x2C70, 0x252⟩,
   ⟨.single 0x2C72, 0x2C73⟩, ⟨.single 0x2C75, 0x2C76⟩, ⟨.run 0x2C7E 0x2C7F, 0x23F⟩,
   ⟨.alternating 0x2C80 0x2CE2, 0x2C81⟩, ⟨.alternating 0x2CEB 0x2CED, 0x2CEC⟩,
   ⟨.single 0x2CF2, 0x2CF3⟩, ⟨.alternating 0xA640 0xA66C, 0xA641⟩,
   ⟨.alternating 0xA680 0xA69A, 0xA681⟩, ⟨.alternating 0xA722 0xA72E, 0xA723⟩,
   ⟨.alternating 0xA732 0xA76E, 0xA733⟩, ⟨.alternating 0xA779 0xA77B, 0xA77A⟩,
   ⟨.single 0xA77D, 0x1D79⟩, ⟨.alternating 0xA77E 0xA786, 0xA77F⟩, ⟨.single 0xA78B, 0xA78C⟩,
   ⟨.single 0xA78D, 0x265⟩, ⟨.alternating 0xA790 0xA792, 0xA791⟩,
   ⟨.alternating 0xA796 0xA7A8, 0xA797⟩, ⟨.single 0xA7AA, 0x266⟩, ⟨.single 0xA7AB, 0x25C⟩,
   ⟨.single 0xA7AC, 0x261⟩, ⟨.single 0xA7AD, 0x26C⟩, ⟨.single 0xA7AE, 0x26A⟩,
   ⟨.single 0xA7B0, 0x29E⟩, ⟨.single 0xA7B1, 0x287⟩, ⟨.single 0xA7B2, 0x29D⟩,
   ⟨.single 0xA7B3, 0xAB53⟩, ⟨.alternating 0xA7B4 0xA7C2, 0xA7B5⟩, ⟨.single 0xA7C4, 0xA794⟩,
   ⟨.single 0xA7C5, 0x282⟩, ⟨.single 0xA7C6, 0x1D8E⟩, ⟨.alternating 0xA7C7 0xA7C9, 0xA7C8⟩,
   ⟨.single 0xA7CB, 0x264⟩, ⟨.alternating 0xA7CC 0xA7DA, 0xA7CD⟩, ⟨.single 0xA7DC, 0x19B⟩,
   ⟨.single 0xA7F5, 0xA7F6⟩, ⟨.run 0xFF21 0xFF3A, 0xFF41⟩, ⟨.run 0x10400 0x10427, 0x10428⟩,
   ⟨.run 0x104B0 0x104D3, 0x104D8⟩, ⟨.run 0x10570 0x1057A, 0x10597⟩,
   ⟨.run 0x1057C 0x1058A, 0x105A3⟩, ⟨.run 0x1058C 0x10592, 0x105B3⟩,
   ⟨.run 0x10594 0x10595, 0x105BB⟩, ⟨.run 0x10C80 0x10CB2, 0x10CC0⟩,
   ⟨.run 0x10D50 0x10D65, 0x10D70⟩, ⟨.run 0x118A0 0x118BF, 0x118C0⟩,
   ⟨.run 0x16E40 0x16E5F, 0x16E60⟩, ⟨.run 0x16EA0 0x16EB8, 0x16EBB⟩,
   ⟨.run 0x1E900 0x1E921, 0x1E922⟩]

/-- An uppercase character: a capital letter, or a sign that counts as one. -/
def isUppercase (c : Char) : Bool := CodeRange.covers uppercaseRanges c.toNat

/-- A lowercase character: a small letter, or a sign that counts as one. -/
def isLowercase (c : Char) : Bool := CodeRange.covers lowercaseRanges c.toNat

/-- The lower case form of a code point by the shift that contains it; without one, itself. -/
def lowerCode : List LowerShift → Nat → Nat
  | [], n => n
  | s :: rest, n =>
    if n < s.source.first then n
    else if n ≤ s.source.last then
      if s.source.contains n then s.target + (n - s.source.first) else n
    else lowerCode rest n

/-- The lower case form of a character. `İ` alone gives two characters: `i` and a combining dot. -/
def lowercase (c : Char) : List Char :=
  if c = '\u0130' then ['i', '\u0307'] else [Char.ofNat (lowerCode lowerShifts c.toNat)]

theorem uppercaseRanges_ordered : CodeRange.orderedFrom 0 uppercaseRanges = true := by
  decide +kernel

theorem lowercaseRanges_ordered : CodeRange.orderedFrom 0 lowercaseRanges = true := by
  decide +kernel

end StructSchema.Unicode
