/-!
# Blanks

The characters with the Unicode property White_Space, and texts without them at their
ends.
-/

namespace Storyboard

namespace Text

/-- Whether a character has the property White_Space. -/
def isBlank (c : Char) : Bool :=
  let n := c.toNat
  (0x09 ≤ n && n ≤ 0x0D) || n == 0x20 || n == 0x85 || n == 0xA0 || n == 0x1680 ||
    (0x2000 ≤ n && n ≤ 0x200A) || n == 0x2028 || n == 0x2029 || n == 0x202F || n == 0x205F ||
    n == 0x3000

/-- Characters without blanks at their start. -/
def dropBlanks (text : List Char) : List Char := text.dropWhile isBlank

/-- Characters without blanks at either end. -/
def trimChars (text : List Char) : List Char :=
  (dropBlanks (dropBlanks text).reverse).reverse

/-- A text without blanks at either end. -/
def trim (text : String) : String := String.ofList (trimChars text.toList)

/-- Whether a text has no other characters than blanks. -/
def isBlankText (text : String) : Bool := text.toList.all isBlank

end Text

end Storyboard
