/-
White space, and the two questions the rest of the library asks about it: what is left of a
line once its indentation is gone, and whether anything is left at all.

White space is the Unicode property of that name, all twenty-five characters of it.  A narrower
class would make an ideographic space or a no-break space count as text, and then a line that
looks empty would not be blank.
-/

namespace LineCut.Text

/-- The characters with the Unicode property `White_Space`. -/
def isSpace (c : Char) : Bool :=
  let n := c.toNat
  (9 ≤ n && n ≤ 13) || n == 0x20 || n == 0x85 || n == 0xA0 || n == 0x1680 ||
    (0x2000 ≤ n && n ≤ 0x200A) || n == 0x2028 || n == 0x2029 || n == 0x202F || n == 0x205F ||
    n == 0x3000

/-- A text without the white space it begins with. -/
def trimStart (text : List Char) : List Char :=
  text.dropWhile isSpace

/-- A text without the white space at either end. -/
def trim (text : List Char) : List Char :=
  ((trimStart text).reverse.dropWhile isSpace).reverse

/-- Nothing but white space. -/
def isBlank (text : String) : Bool :=
  text.toList.all isSpace

end LineCut.Text
