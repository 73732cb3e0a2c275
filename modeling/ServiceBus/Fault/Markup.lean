import ServiceBus.Text.Search

set_option autoImplicit false

/-! # Elements of a fault document

A fault document is a sequence of elements with text content. Four characters of the content
are written as entities; they are written by four replacements over the whole text, and read
back by four replacements in the opposite order (`escape`, `unescape`). `decodeEntities` is the
reading in a single pass.

An element is found by its opening tag and ends with the first closing tag after it. -/

namespace ServiceBus.Fault

open ServiceBus.Text

/-- The four characters and their entities, in the order in which they are written. -/
def entities : List (Char × List Char) :=
  [('&', "&amp;".toList), ('<', "&lt;".toList), ('>', "&gt;".toList), ('"', "&quot;".toList)]

/-- The text as element content. -/
def escape (s : List Char) : List Char :=
  entities.foldl (fun s e => replaceAll [e.1] e.2 s) s

/-- The text that element content stands for. -/
def unescape (s : List Char) : List Char :=
  entities.foldr (fun e s => replaceAll e.2 [e.1] s) s

/-- The entity at the start of a text, and the length of its name behind the `&`. -/
def entityAt? (s : List Char) : Option (Char × Nat) :=
  (entities.find? fun e => (after? e.2 s).isSome).map fun e => (e.1, e.2.length - 1)

/-- `decodeFrom k s` skips `k` characters and then decodes entities from left to right. -/
def decodeFrom : Nat → List Char → List Char
  | _, [] => []
  | k + 1, _ :: s => decodeFrom k s
  | 0, c :: s =>
      match entityAt? (c :: s) with
      | some (d, k) => d :: decodeFrom k s
      | none => c :: decodeFrom 0 s

/-- Every entity replaced by its character in one pass over the text. -/
def decodeEntities (s : List Char) : List Char := decodeFrom 0 s

/-- The name that fault documents bind to the namespace of the bus. -/
def namespaceMark : List Char := "sbb".toList

/-- The namespace of the documents that the bus writes. -/
def busNamespace : List Char := "urn:sbb:exchange:2024".toList

/-- The opening tag of an element. -/
def openTag (name : String) : List Char := '<' :: namespaceMark ++ ':' :: name.toList ++ ['>']

/-- The closing tag of an element. -/
def closeTag (name : String) : List Char :=
  '<' :: '/' :: namespaceMark ++ ':' :: name.toList ++ ['>']

/-- An element with text content. -/
def element (name : String) (content : List Char) : List Char :=
  openTag name ++ escape content ++ closeTag name

/-- The content of the first element with the given name. -/
def elementText? (name : String) (body : List Char) : Option (List Char) := do
  let (_, rest) ← splitOnce? (openTag name) body
  let (content, _) ← splitOnce? (closeTag name) rest
  some (unescape content)

end ServiceBus.Fault
