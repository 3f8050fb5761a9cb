/-! # Blank characters

White space as Unicode's `White_Space` property has it. -/

namespace Switchboard.Text

/-- Unicode white space: the ASCII blanks and controls, the next-line control, the no-break and Ogham spaces, the
spaces of the general punctuation block, its line and paragraph separators, and the ideographic space. -/
def isBlank (c : Char) : Bool :=
  let n := c.toNat
  n == 0x20 || (0x09 ≤ n && n ≤ 0x0D) || n == 0x85 || n == 0xA0 || n == 0x1680 || (0x2000 ≤ n && n ≤ 0x200A)
    || n == 0x2028 || n == 0x2029 || n == 0x202F || n == 0x205F || n == 0x3000

/-- A text without the blanks at its two ends. -/
def trimBlanks (s : String) : String :=
  String.ofList ((s.toList.dropWhile isBlank).reverse.dropWhile isBlank).reverse

end Switchboard.Text
