import ServiceBus.Text.Numeral

set_option autoImplicit false

/-! # Universally unique identifiers

An identifier is a number of 128 bits. It is written with 32 small hexadecimal digits in five
groups; besides this form, the digits without hyphens, the form in curly brackets and the form
behind `urn:uuid:` are read, with letters of either case. -/

namespace ServiceBus

/-- An identifier of 128 bits. -/
structure Uuid where
  number : Nat
  number_lt : number < Nat.pow 16 32
  deriving DecidableEq

namespace Uuid

instance : Inhabited Uuid := ⟨0, by decide⟩

/-- The five groups of digits, of 8, 4, 4, 4 and 12, with hyphens between them. -/
def hyphenated (s : List Char) : List Char :=
  s.take 8 ++ '-' :: (s.drop 8).take 4 ++ '-' :: (s.drop 12).take 4 ++
    '-' :: (s.drop 16).take 4 ++ '-' :: s.drop 20

/-- The written form. -/
def text (u : Uuid) : String := String.ofList (hyphenated (Text.padded 16 32 u.number))

instance : ToString Uuid := ⟨text⟩

/-- The identifier with the given 32 hexadecimal digits. -/
def ofDigits? (s : List Char) : Option Uuid :=
  if s.length = 32 then
    match Text.number? 16 s with
    | some n => if h : n < Nat.pow 16 32 then some ⟨n, h⟩ else none
    | none => none
  else none

/-- The digits of the hyphenated form. -/
def unhyphenated? (s : List Char) : Option (List Char) :=
  let ds := s.filter (· ≠ '-')
  if hyphenated ds = s then some ds else none

/-- The identifier in hyphenated form. -/
def ofHyphenated? (s : List Char) : Option Uuid := (unhyphenated? s).bind ofDigits?

/-- The identifier in hyphenated form between curly brackets. -/
def ofBraced? (s : List Char) : Option Uuid :=
  if s.head? = some (Char.ofNat 0x7B) && s.getLast? = some (Char.ofNat 0x7D) then
    ofHyphenated? s.tail.dropLast
  else none

/-- What marks an identifier as the name of a resource. -/
def urnMark : List Char := "urn:uuid:".toList

/-- The identifier in hyphenated form behind the mark of a resource name, whose letters may be of
either case. -/
def ofUrn? (s : List Char) : Option Uuid :=
  if (s.take urnMark.length).map Char.toLower = urnMark then ofHyphenated? (s.drop urnMark.length)
  else none

/-- The identifier written in any of the four forms. -/
def ofText? (s : String) : Option Uuid :=
  let cs := s.toList
  match cs.length with
  | 32 => ofDigits? cs
  | 36 => ofHyphenated? cs
  | 38 => ofBraced? cs
  | 45 => ofUrn? cs
  | _ => none

/-- The `n`-th of a series of identifiers in the layout of randomly generated ones. -/
def generated (n : Nat) : Uuid where
  number := 0xF0000000000040008000000000000000 + n % Nat.pow 16 12
  number_lt := by
    have hn : n % Nat.pow 16 12 < Nat.pow 16 12 := Nat.mod_lt _ (by decide)
    have hsum : 0xF0000000000040008000000000000000 + Nat.pow 16 12 ≤ Nat.pow 16 32 := by decide
    omega

end Uuid

end ServiceBus
