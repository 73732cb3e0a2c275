import ServiceBus.Json.Token

set_option autoImplicit false

/-! # Outlines of JSON text

An outline has the structure of a JSON text, but its numbers and strings are as they were
written. It tells a text that is not JSON at all from one with a value that cannot be had, such
as a number out of range, and the latter matters only where the value is used.

Outlines are built from tokens with a stack of the arrays and objects that are open. -/

namespace ServiceBus.Json

/-- A JSON text by its structure. -/
inductive Outline where
  | null
  | bool (b : Bool)
  | number (n : Numeral)
  | text (units : List Nat)
  | array (items : List Outline)
  | object (members : List (List Nat × Outline))
  deriving Inhabited

namespace Outline

/-- An array or an object that is open, with what it has so far, the latest first. -/
inductive Frame where
  | array (items : List Outline)
  | object (members : List (List Nat × Outline))
  /-- An object whose last name has no value yet. -/
  | member (name : List Nat) (members : List (List Nat × Outline))

/-- What may come next. -/
inductive Next where
  | value
  | valueOrEnd
  | name
  | nameOrEnd
  | colon
  | commaOrEnd
  /-- The text is complete. -/
  | nothing (v : Outline)

/-- A text that has been read in part. -/
structure Progress where
  frames : List Frame := []
  next : Next := .value

/-- Put a complete value into the innermost open array or object. -/
def place (v : Outline) : List Frame → Option Progress
  | [] => some ⟨[], .nothing v⟩
  | .array items :: frames => some ⟨.array (v :: items) :: frames, .commaOrEnd⟩
  | .member name members :: frames => some ⟨.object ((name, v) :: members) :: frames, .commaOrEnd⟩
  | .object _ :: _ => none

/-- Begin a value. -/
def beginValue (frames : List Frame) : Token → Option Progress
  | .null => place .null frames
  | .bool b => place (.bool b) frames
  | .number n => place (.number n) frames
  | .text units => place (.text units) frames
  | .openArray => some ⟨.array [] :: frames, .valueOrEnd⟩
  | .openObject => some ⟨.object [] :: frames, .nameOrEnd⟩
  | .closeArray | .closeObject | .comma | .colon => none

/-- Close the innermost array or object. -/
def close : List Frame → Token → Option Progress
  | .array items :: frames, .closeArray => place (.array items.reverse) frames
  | .object members :: frames, .closeObject => place (.object members.reverse) frames
  | _, _ => none

/-- Begin a member of an object. -/
def beginMember : List Frame → Token → Option Progress
  | .object members :: frames, .text name => some ⟨.member name members :: frames, .colon⟩
  | _, _ => none

/-- Go on after a comma. -/
def separate : List Frame → Option Progress
  | .array items :: frames => some ⟨.array items :: frames, .value⟩
  | .object members :: frames => some ⟨.object members :: frames, .name⟩
  | _ => none

/-- Read a token. -/
def read (p : Progress) (t : Token) : Option Progress :=
  match p.next with
  | .value => beginValue p.frames t
  | .valueOrEnd => if t = .closeArray then close p.frames t else beginValue p.frames t
  | .name => beginMember p.frames t
  | .nameOrEnd => if t = .closeObject then close p.frames t else beginMember p.frames t
  | .colon => if t = .colon then some { p with next := .value } else none
  | .commaOrEnd => if t = .comma then separate p.frames else close p.frames t
  | .nothing _ => none

/-- The outline of a complete text. -/
def finish (p : Progress) : Option Outline :=
  match p.next with
  | .nothing v => some v
  | _ => none

/-- The outline that the tokens make. -/
def ofTokens? (ts : List Token) : Option Outline := (ts.foldlM read {}).bind finish

/-- The outline of a text. -/
def ofText? (s : String) : Option Outline := (Token.ofChars? s.toList).bind ofTokens?

end Outline

end ServiceBus.Json
