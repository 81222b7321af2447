import StructSchema.Unicode.CodeRange

/-!
# Numbers

The characters of the general categories Nd, Nl and No, in version 16.0 of the standard.

## Key results

- `isNumber_of_isDigit`: the ASCII digits are numbers
-/

namespace StructSchema.Unicode

/-- The numeric characters, in increasing order. -/
def numberRanges : List CodeRange :=
  [.run 0x30 0x39, .run 0xB2 0xB3, .single 0xB9, .run 0xBC 0xBE, .run 0x660 0x669, .run 0x6F0 0x6F9,
   .run 0x7C0 0x7C9, .run 0x966 0x96F, .run 0x9E6 0x9EF, .run 0x9F4 0x9F9, .run 0xA66 0xA6F,
   .run 0xAE6 0xAEF, .run 0xB66 0xB6F, .run 0xB72 0xB77, .run 0xBE6 0xBF2, .run 0xC66 0xC6F,
   .run 0xC78 0xC7E, .run 0xCE6 0xCEF, .run 0xD58 0xD5E, .run 0xD66 0xD78, .run 0xDE6 0xDEF,
   .run 0xE50 0xE59, .run 0xED0 0xED9, .run 0xF20 0xF33, .run 0x1040 0x1049, .run 0x1090 0x1099,
   .run 0x1369 0x137C, .run 0x16EE 0x16F0, .run 0x17E0 0x17E9, .run 0x17F0 0x17F9,
   .run 0x1810 0x1819, .run 0x1946 0x194F, .run 0x19D0 0x19DA, .run 0x1A80 0x1A89,
   .run 0x1A90 0x1A99, .run 0x1B50 0x1B59, .run 0x1BB0 0x1BB9, .run 0x1C40 0x1C49,
   .run 0x1C50 0x1C59, .single 0x2070, .run 0x2074 0x2079, .run 0x2080 0x2089, .run 0x2150 0x2182,
   .run 0x2185 0x2189, .run 0x2460 0x249B, .run 0x24EA 0x24FF, .run 0x2776 0x2793, .single 0x2CFD,
   .single 0x3007, .run 0x3021 0x3029, .run 0x3038 0x303A, .run 0x3192 0x3195, .run 0x3220 0x3229,
   .run 0x3248 0x324F, .run 0x3251 0x325F, .run 0x3280 0x3289, .run 0x32B1 0x32BF,
   .run 0xA620 0xA629, .run 0xA6E6 0xA6EF, .run 0xA830 0xA835, .run 0xA8D0 0xA8D9,
   .run 0xA900 0xA909, .run 0xA9D0 0xA9D9, .run 0xA9F0 0xA9F9, .run 0xAA50 0xAA59,
   .run 0xABF0 0xABF9, .run 0xFF10 0xFF19, .run 0x10107 0x10133, .run 0x10140 0x10178,
   .run 0x1018A 0x1018B, .run 0x102E1 0x102FB, .run 0x10320 0x10323, .single 0x10341,
   .single 0x1034A, .run 0x103D1 0x103D5, .run 0x104A0 0x104A9, .run 0x10858 0x1085F,
   .run 0x10879 0x1087F, .run 0x108A7 0x108AF, .run 0x108FB 0x108FF, .run 0x10916 0x1091B,
   .run 0x109BC 0x109BD, .run 0x109C0 0x109CF, .run 0x109D2 0x109FF, .run 0x10A40 0x10A48,
   .run 0x10A7D 0x10A7E, .run 0x10A9D 0x10A9F, .run 0x10AEB 0x10AEF, .run 0x10B58 0x10B5F,
   .run 0x10B78 0x10B7F, .run 0x10BA9 0x10BAF, .run 0x10CFA 0x10CFF, .run 0x10D30 0x10D39,
   .run 0x10D40 0x10D49, .run 0x10E60 0x10E7E, .run 0x10F1D 0x10F26, .run 0x10F51 0x10F54,
   .run 0x10FC5 0x10FCB, .run 0x11052 0x1106F, .run 0x110F0 0x110F9, .run 0x11136 0x1113F,
   .run 0x111D0 0x111D9, .run 0x111E1 0x111F4, .run 0x112F0 0x112F9, .run 0x11450 0x11459,
   .run 0x114D0 0x114D9, .run 0x11650 0x11659, .run 0x116C0 0x116C9, .run 0x116D0 0x116E3,
   .run 0x11730 0x1173B, .run 0x118E0 0x118F2, .run 0x11950 0x11959, .run 0x11BF0 0x11BF9,
   .run 0x11C50 0x11C6C, .run 0x11D50 0x11D59, .run 0x11DA0 0x11DA9, .run 0x11F50 0x11F59,
   .run 0x11FC0 0x11FD4, .run 0x12400 0x1246E, .run 0x16130 0x16139, .run 0x16A60 0x16A69,
   .run 0x16AC0 0x16AC9, .run 0x16B50 0x16B59, .run 0x16B5B 0x16B61, .run 0x16D70 0x16D79,
   .run 0x16E80 0x16E96, .run 0x1CCF0 0x1CCF9, .run 0x1D2C0 0x1D2D3, .run 0x1D2E0 0x1D2F3,
   .run 0x1D360 0x1D378, .run 0x1D7CE 0x1D7FF, .run 0x1E140 0x1E149, .run 0x1E2F0 0x1E2F9,
   .run 0x1E4F0 0x1E4F9, .run 0x1E5F1 0x1E5FA, .run 0x1E8C7 0x1E8CF, .run 0x1E950 0x1E959,
   .run 0x1EC71 0x1ECAB, .run 0x1ECAD 0x1ECAF, .run 0x1ECB1 0x1ECB4, .run 0x1ED01 0x1ED2D,
   .run 0x1ED2F 0x1ED3D, .run 0x1F100 0x1F10C, .run 0x1FBF0 0x1FBF9]

/-- A digit or another numeric character of any script. -/
def isNumber (c : Char) : Bool := CodeRange.covers numberRanges c.toNat

theorem numberRanges_ordered : CodeRange.orderedFrom 0 numberRanges = true := by decide +kernel

/-- The ASCII digits are numbers. -/
theorem isNumber_of_isDigit {c : Char} (h : c.isDigit = true) : isNumber c = true := by
  obtain ⟨low, high⟩ := Bool.and_eq_true_iff.1 h
  refine CodeRange.covers_of_mem numberRanges_ordered (r := .run 0x30 0x39) (.head _) ?_
  exact CodeRange.contains_run.2 ⟨of_decide_eq_true low, of_decide_eq_true high⟩

end StructSchema.Unicode
