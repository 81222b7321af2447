import StructSchema.Unicode.CodeRange

/-!
# White space

The characters with the property White_Space: the line ends among them, the zero width space not.
-/

namespace StructSchema.Unicode

/-- The white space characters, in increasing order. -/
def whiteSpaceRanges : List CodeRange :=
  [.run 0x9 0xD, .single 0x20, .single 0x85, .single 0xA0, .single 0x1680, .run 0x2000 0x200A,
   .run 0x2028 0x2029, .single 0x202F, .single 0x205F, .single 0x3000]

/-- White space, line ends included. -/
def isWhiteSpace (c : Char) : Bool := CodeRange.covers whiteSpaceRanges c.toNat

theorem whiteSpaceRanges_ordered : CodeRange.orderedFrom 0 whiteSpaceRanges = true := by decide

end StructSchema.Unicode
