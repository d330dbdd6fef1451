import UrlTemplate.Text.Ranges

/-! # White space

The characters with the property White_Space, which are the ones that trimming
removes and that an extended regular expression may contain for layout.
-/

namespace UrlTemplate.Unicode

/-- The code points of the white space characters. -/
def blankRanges : List (Nat × Nat) :=
  [(0x9, 0xd), (0x20, 0x20), (0x85, 0x85), (0xa0, 0xa0), (0x1680, 0x1680), (0x2000, 0x200a),
   (0x2028, 0x2029), (0x202f, 0x202f), (0x205f, 0x205f), (0x3000, 0x3000)]

/-- The character is white space. -/
def isBlank (c : Char) : Bool := inRanges blankRanges c.toNat

end UrlTemplate.Unicode
