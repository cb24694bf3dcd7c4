/-!
# Blanks

The characters with the White_Space property, and the removal of blanks from
both ends of a text.
-/

namespace PhoneAudio.Text

/-- The White_Space property: the ASCII blanks, the next-line control, and the
separators of every width. -/
def isBlank (c : Char) : Bool :=
  let n := c.toNat
  (0x9 ≤ n && n ≤ 0xD) || n == 0x20 || n == 0x85 || n == 0xA0 || n == 0x1680 ||
  (0x2000 ≤ n && n ≤ 0x200A) || n == 0x2028 || n == 0x2029 || n == 0x202F ||
  n == 0x205F || n == 0x3000

/-- A text without the blanks at either end. -/
def trim (text : List Char) : List Char :=
  ((text.dropWhile isBlank).reverse.dropWhile isBlank).reverse

example : trim " \t a b\u3000".toList = "a b".toList := by decide

end PhoneAudio.Text
