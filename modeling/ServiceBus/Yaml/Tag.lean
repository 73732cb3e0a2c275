set_option autoImplicit false

/-! # Tags in a YAML text

A tag says how a node is meant. It is written with characters and with escapes, each of which
stands for an octet; so a tag is a sequence of octets, which need not make up a text. A zero
octet ends the part of a tag that it stands in.

A tag that begins with a mark is a name for an application (`Tag.name?`); a few others name the
core types. -/

namespace ServiceBus.Yaml

/-- A tag. -/
structure Tag where
  octets : List UInt8
  deriving DecidableEq

namespace Tag

/-- The tag that is a text. -/
def ofText (s : String) : Tag := ⟨s.toList.flatMap String.utf8EncodeChar⟩

/-- The tag that some octets amount to. -/
def ofOctets (octets : List UInt8) : Tag := ⟨octets.takeWhile (· ≠ 0)⟩

/-- A tag and what follows it. -/
def append (t u : Tag) : Tag := ⟨t.octets ++ u.octets⟩

/-- The mark that names for applications begin with. -/
def mark : UInt8 := 0x21

/-- Whether a tag is a name for an application. -/
def isName (t : Tag) : Bool := t.octets.head? = some mark

/-- The octets without a mark at the start, unless the mark is all there is. -/
def unmarked : List UInt8 → List UInt8
  | a :: b :: rest => if a = mark then b :: rest else a :: b :: rest
  | octets => octets

/-- The name for an application that a tag is, if it is one and a text. A second mark at the start
makes no difference to it. -/
def name? (t : Tag) : Option String :=
  if t.isName then String.fromUTF8? ⟨(unmarked (unmarked t.octets)).toArray⟩ else none

end Tag

end ServiceBus.Yaml
