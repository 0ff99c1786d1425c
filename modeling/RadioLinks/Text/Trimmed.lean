/-!
# Blanks around a text

Blanks are the characters that leave a gap, line ends among them.
-/

namespace RadioLinks.Text

/-- A character that leaves a gap. -/
def isBlank (c : Char) : Bool :=
  let code := c.toNat
  c = ' ' || (9 ≤ code && code ≤ 13) || code = 0x85 || code = 0xA0 || code = 0x1680
    || (0x2000 ≤ code && code ≤ 0x200A) || code = 0x2028 || code = 0x2029 || code = 0x202F
    || code = 0x205F || code = 0x3000

/-- A text without the blanks around it. -/
def trimmed (text : String) : String :=
  let cs := text.toList.dropWhile isBlank
  String.ofList (cs.reverse.dropWhile isBlank).reverse

end RadioLinks.Text
