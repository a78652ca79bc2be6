/-!
# Blank characters and trimming

A character is *blank* when it has the Unicode White_Space property: the tab, line feed, line
tabulation, form feed and carriage return, the space, the next-line control, the no-break space,
and the spaces and separators of the General Punctuation and CJK blocks.

Trimming drops blank characters from one end or both ends of a text.
-/

namespace VectorCapture.Text

/-- Whether a character has the White_Space property. -/
def isBlank (c : Char) : Bool :=
  let n := c.toNat
  (0x9 ≤ n && n ≤ 0xd) || n == 0x20 || n == 0x85 || n == 0xa0 || n == 0x1680 ||
    (0x2000 ≤ n && n ≤ 0x200a) || n == 0x2028 || n == 0x2029 || n == 0x202f ||
    n == 0x205f || n == 0x3000

/-- The characters after the leading blanks. -/
def trimStart (cs : List Char) : List Char :=
  cs.dropWhile isBlank

/-- The characters before the trailing blanks. -/
def trimEnd (cs : List Char) : List Char :=
  (cs.reverse.dropWhile isBlank).reverse

/-- The characters between the leading and the trailing blanks. -/
def trim (cs : List Char) : List Char :=
  trimEnd (trimStart cs)

end VectorCapture.Text
