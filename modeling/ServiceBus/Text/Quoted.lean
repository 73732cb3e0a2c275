import ServiceBus.Text.Ranges
import ServiceBus.Text.Property.Unprintable
import ServiceBus.Text.Property.GraphemeExtend

set_option autoImplicit false

/-! # Quoted text

Text between double quotes, in the form in which diagnostics show it: the quote and the
backslash are preceded by a backslash, line feed, carriage return, tab and the null character
have short forms, and whatever else cannot stand by itself is written by its number. -/

namespace ServiceBus.Text

/-- Whether a character stands for itself in quoted text. -/
def isPlain (c : Char) : Bool :=
  if c.toNat < 0x7F then 0x20 ≤ c.toNat && c ≠ '"' && c ≠ '\\'
  else c.toNat ≠ 0x7F && !inRanges graphemeExtendRanges c && !inRanges unprintableRanges c

/-- The characters `\u{…}` with the number of `c` in between. -/
def byNumber (c : Char) : List Char :=
  ['\\', 'u', Char.ofNat 0x7B] ++ Nat.toDigits 16 c.toNat ++ [Char.ofNat 0x7D]

/-- A character as it stands between quotes. -/
def quoteChar (c : Char) : List Char :=
  if c = '"' then ['\\', '"']
  else if c = '\\' then ['\\', '\\']
  else if c = '\n' then ['\\', 'n']
  else if c = '\r' then ['\\', 'r']
  else if c = '\t' then ['\\', 't']
  else if c.toNat = 0 then ['\\', '0']
  else if isPlain c then [c]
  else byNumber c

/-- The text between double quotes. -/
def quote (s : String) : String := String.ofList ('"' :: s.toList.flatMap quoteChar ++ ['"'])

end ServiceBus.Text
