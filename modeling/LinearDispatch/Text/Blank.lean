-- SUMMARY: Blank characters, and trimming them from the ends of a text.

/-!
# Blanks

The blanks are the white space of Unicode together with the four information
separators U+001C to U+001F. The zero-width characters U+200B and U+FEFF are
not blank.
-/
namespace LinearDispatch.Text

/-- White space and the information separators. -/
def isBlank (c : Char) : Bool :=
  let n := c.toNat
  (0x09 ≤ n && n ≤ 0x0D) || (0x1C ≤ n && n ≤ 0x20) || n == 0x85 || n == 0xA0 || n == 0x1680
    || (0x2000 ≤ n && n ≤ 0x200A) || n == 0x2028 || n == 0x2029 || n == 0x202F || n == 0x205F
    || n == 0x3000

/-- The characters without the blanks at the end. -/
def trimEnd (cs : List Char) : List Char :=
  (cs.reverse.dropWhile isBlank).reverse

/-- The characters without the blanks at either end. -/
def trim (cs : List Char) : List Char :=
  trimEnd (cs.dropWhile isBlank)

/-- A text without the blanks at either end. -/
def strip (s : String) : String :=
  String.ofList (trim s.toList)

end LinearDispatch.Text
