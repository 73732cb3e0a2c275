import ServiceBus.Text.Quoted

set_option autoImplicit false

/-! # Why a document cannot be read

What can be wrong with a document that is to be read as a value of the bus. Where something else is
expected than what is found, both are told in words (`found` and `expected`). -/

namespace ServiceBus.Wire

/-- Why a document cannot be read. -/
inductive DecodeError where
  /-- A member that has no default is missing. -/
  | missingField (name : String)
  /-- A word is none of those that are allowed. -/
  | unknownVariant (found : String) (expected : List String)
  /-- Something of another type is expected. -/
  | invalidType (found expected : String)
  /-- The type is right, but the value is out of range. -/
  | invalidValue (found expected : String)
  /-- A list has too few or too many items. -/
  | invalidLength (length : Nat) (expected : String)
  /-- A member is there twice. -/
  | repeated (name : String)
  /-- A text does not have the form that identifiers or points in time have. Why it does not is for
  their readers to say; the text is all that is kept here. -/
  | malformed (text : String)
  deriving DecidableEq

/-! ## What is found -/

/-- A text as something that is found in a document. -/
def foundText (s : String) : String := "string " ++ Text.quote s

/-- A text between backquotes. -/
def backquoted (s : String) : String :=
  String.singleton (Char.ofNat 0x60) ++ s ++ String.singleton (Char.ofNat 0x60)

/-- A truth value as something that is found. -/
def foundFlag (b : Bool) : String := "boolean " ++ backquoted (if b then "true" else "false")

/-- A whole number as something that is found. -/
def foundWhole (n : Int) : String := "integer " ++ backquoted (toString n)

/-- A floating-point number as something that is found, by its text. -/
def foundFloat (text : String) : String := "floating point " ++ backquoted text

/-! ## The message -/

/-- What is expected instead of an unknown word. -/
def expectation : List String → String
  | [] => "there are no variants"
  | [a] => "expected " ++ backquoted a
  | [a, b] => "expected " ++ backquoted a ++ " or " ++ backquoted b
  | words => "expected one of " ++ String.intercalate ", " (words.map backquoted)

/-- How many items are meant. -/
def itemCount (n : Nat) : String := if n = 1 then "1 element" else toString n ++ " elements"

/-- The message; of a malformed text, all it tells is the text. -/
def DecodeError.message : DecodeError → String
  | .missingField name => "missing field " ++ backquoted name
  | .unknownVariant found expected =>
      "unknown variant " ++ backquoted found ++ ", " ++ expectation expected
  | .invalidType found expected => "invalid type: " ++ found ++ ", expected " ++ expected
  | .invalidValue found expected => "invalid value: " ++ found ++ ", expected " ++ expected
  | .invalidLength length expected =>
      "invalid length " ++ toString length ++ ", expected " ++ expected
  | .repeated name => "duplicate field " ++ backquoted name
  | .malformed text => "invalid " ++ foundText text

end ServiceBus.Wire
