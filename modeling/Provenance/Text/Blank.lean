/-!
White space as the Unicode character database has it, and texts cut free of it at both ends.
-/

set_option autoImplicit false
set_option relaxedAutoImplicit false

namespace Provenance.Text

/-- The 25 characters with the white space property. -/
def isBlank (c : Char) : Bool :=
  let n := c.toNat
  (0x9 ≤ n && n ≤ 0xd) || n == 0x20 || n == 0x85 || n == 0xa0 || n == 0x1680 ||
    (0x2000 ≤ n && n ≤ 0x200a) || n == 0x2028 || n == 0x2029 || n == 0x202f || n == 0x205f ||
    n == 0x3000

def skipBlanks (text : List Char) : List Char := text.dropWhile isBlank

/-- Without the blanks at either end. -/
def trim (text : List Char) : List Char :=
  (skipBlanks (skipBlanks text).reverse).reverse

end Provenance.Text
