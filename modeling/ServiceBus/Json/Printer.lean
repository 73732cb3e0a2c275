import ServiceBus.Decimal.Positional
import ServiceBus.Json
import ServiceBus.Message
import ServiceBus.Text.Numeral

set_option autoImplicit false

/-! # JSON text

The compact text of a JSON value: no blanks, controls escaped, everything else as it is, and
floating-point numbers by their shortest decimals. -/

namespace ServiceBus.Json

/-! ## Numbers -/

/-- The decimal `0.ds · 10 ^ point`, positional from `10 ^ (-5)` up to `10 ^ 16`, otherwise with
an exponent that has a sign. -/
def decimalText (ds : List Char) (point : Int) : List Char :=
  if -5 < point ∧ point ≤ 16 then Decimal.positional ds point
  else
    ds.take 1 ++ (if ds.length = 1 then [] else '.' :: ds.drop 1) ++
      'e' :: (if point ≤ 0 then '-' else '+') :: Nat.toDigits 10 (point - 1).natAbs

/-- A floating-point number; one that is not finite has no JSON form and is written `null`. -/
def floatText (x : Binary64) : List Char :=
  if x.isFinite then Decimal.signed decimalText x else "null".toList

/-! ## Strings -/

/-- A character as it stands in a string. -/
def escapeChar (c : Char) : List Char :=
  if c = '"' then ['\\', '"']
  else if c = '\\' then ['\\', '\\']
  else if 0x20 ≤ c.toNat then [c]
  else
    match c.toNat with
    | 8 => ['\\', 'b']
    | 9 => ['\\', 't']
    | 10 => ['\\', 'n']
    | 12 => ['\\', 'f']
    | 13 => ['\\', 'r']
    | n => '\\' :: 'u' :: Text.padded 16 4 n

/-- A string between its quotes. -/
def stringText (s : String) : List Char := '"' :: s.toList.flatMap escapeChar ++ ['"']

/-! ## Values -/

mutual

/-- The characters of a value. -/
def chars : Json → List Char
  | .null => "null".toList
  | .bool true => "true".toList
  | .bool false => "false".toList
  | .int n => (toString n).toList
  | .float x => floatText x
  | .string s => stringText s
  | .array items => '[' :: itemChars items ++ [']']
  | .object members => Char.ofNat 0x7B :: memberChars members ++ [Char.ofNat 0x7D]

/-- The characters of a list of items. -/
def itemChars : List Json → List Char
  | [] => []
  | [v] => chars v
  | v :: rest => chars v ++ ',' :: itemChars rest

/-- The characters of a list of members. -/
def memberChars : List (String × Json) → List Char
  | [] => []
  | [(name, v)] => stringText name ++ ':' :: chars v
  | (name, v) :: rest => stringText name ++ ':' :: (chars v ++ ',' :: memberChars rest)

end

/-- The compact text of a value. -/
def render (v : Json) : String := String.ofList v.chars

end ServiceBus.Json

namespace ServiceBus

/-- The message whose body is the text of a JSON value. -/
def Message.ofJson (v : Json) : Message := { body := v.render }

end ServiceBus
