import ServiceBus.Collection.Dict
import ServiceBus.Json.Outline

set_option autoImplicit false

/-! # Reading JSON text

The value that an outline stands for. Both halves of a pair in a string have to be there, a
number must not be out of range, and values may be nested `nesting` deep. Of several members of
an object with one name the last counts, and members come in ascending order of their names. -/

namespace ServiceBus.Json

/-- How deep arrays and objects may be nested. -/
def nesting : Nat := 127

/-- The first half of a pair that makes one character. -/
def isFirstHalf (u : Nat) : Bool := 0xD800 ≤ u && u < 0xDC00

/-- The second half of a pair. -/
def isSecondHalf (u : Nat) : Bool := 0xDC00 ≤ u && u < 0xE000

/-- `joinUnits? done units` appends the characters that the units stand for to `done`, which is
in reverse. -/
def joinUnits? (done : List Char) : List Nat → Option (List Char)
  | [] => some done.reverse
  | [u] => if isFirstHalf u || isSecondHalf u then none else joinUnits? (Char.ofNat u :: done) []
  | u :: v :: rest =>
      if isFirstHalf u then
        if isSecondHalf v then
          joinUnits? (Char.ofNat (0x10000 + (u - 0xD800) * 0x400 + (v - 0xDC00)) :: done) rest
        else none
      else if isSecondHalf u then none
      else joinUnits? (Char.ofNat u :: done) (v :: rest)

/-- The text that a string's units stand for. -/
def textOf? (units : List Nat) : Option String := (joinUnits? [] units).map String.ofList

mutual

/-- The value of an outline that is nested no deeper than `depth`. -/
def ofOutline? (depth : Nat) : Outline → Option Json
  | .null => some .null
  | .bool b => some (.bool b)
  | .number n => n.toJson?
  | .text units => (textOf? units).map .string
  | .array items =>
      match depth with
      | 0 => none
      | depth + 1 => (itemsOf? depth items).map .array
  | .object members =>
      match depth with
      | 0 => none
      | depth + 1 => (membersOf? depth members).map fun ms => .object (Dict.ofList ms).entries

/-- The values of a list of outlines. -/
def itemsOf? (depth : Nat) : List Outline → Option (List Json)
  | [] => some []
  | v :: rest =>
      match ofOutline? depth v with
      | none => none
      | some v => (itemsOf? depth rest).map (v :: ·)

/-- The values of the members of an object. -/
def membersOf? (depth : Nat) : List (List Nat × Outline) → Option (List (String × Json))
  | [] => some []
  | (name, v) :: rest =>
      match textOf? name, ofOutline? depth v with
      | some name, some v => (membersOf? depth rest).map ((name, v) :: ·)
      | _, _ => none

end

/-- The value that a text stands for. -/
def parse? (s : String) : Option Json := (Outline.ofText? s).bind (ofOutline? nesting)

end ServiceBus.Json
