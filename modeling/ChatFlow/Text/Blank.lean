/-!
Blank characters and trimming.

Blank are the spaces of every width, the line and paragraph ends, the tabs and the four information
separators U+001C to U+001F. The zero-width space U+200B is not blank. Trimming drops blank characters
at both ends of a text and touches nothing between them.
-/

namespace ChatFlow.Text

/-- The character is white space of some kind. -/
def isBlank (c : Char) : Bool :=
  (0x09 ≤ c.val && c.val ≤ 0x0D) || (0x1C ≤ c.val && c.val ≤ 0x20) || c.val == 0x85 || c.val == 0xA0
    || c.val == 0x1680 || (0x2000 ≤ c.val && c.val ≤ 0x200A) || c.val == 0x2028 || c.val == 0x2029
    || c.val == 0x202F || c.val == 0x205F || c.val == 0x3000

/-- Drops the blank characters at both ends of a list of characters. -/
def trimChars (cs : List Char) : List Char :=
  ((cs.dropWhile isBlank).reverse.dropWhile isBlank).reverse

/-- Drops the blank characters at both ends. -/
def trim (s : String) : String :=
  String.ofList (trimChars s.toList)

end ChatFlow.Text
