set_option autoImplicit false

/-! # Blank characters

The characters of the Unicode property White_Space, and what is left of a text when they are
taken off its ends. -/

namespace ServiceBus.Text

/-- The property White_Space. -/
def isBlank (c : Char) : Bool :=
  let n := c.toNat
  (9 ≤ n && n ≤ 13) || n == 0x20 || n == 0x85 || n == 0xA0 || n == 0x1680 ||
  (0x2000 ≤ n && n ≤ 0x200A) || n == 0x2028 || n == 0x2029 || n == 0x202F ||
  n == 0x205F || n == 0x3000

/-- The text without the blanks it starts with. -/
def trimStart (s : List Char) : List Char := s.dropWhile isBlank

/-- The text without the blanks it starts and ends with. -/
def trim (s : List Char) : List Char := (trimStart (trimStart s).reverse).reverse

end ServiceBus.Text
