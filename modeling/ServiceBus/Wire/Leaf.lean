import ServiceBus.Collection.Dict
import ServiceBus.Json.Printer
import ServiceBus.Timestamp.Rfc3339
import ServiceBus.Uuid
import ServiceBus.Vocabulary
import ServiceBus.Wire.Form

set_option autoImplicit false

/-! # The leaves of JSON documents

How the parts that records consist of are read from JSON values, and written. -/

namespace ServiceBus.Wire

/-! ## Reading -/

/-- A value as something that is found in a document. -/
def foundJson : Json → String
  | .null => "null"
  | .bool b => foundFlag b
  | .int n => foundWhole n
  | .float x => foundFloat (String.ofList (Json.floatText x))
  | .string s => foundText s
  | .array _ => "sequence"
  | .object _ => "map"

/-- The error for a value where another one is expected. -/
def unexpected {α : Type} (v : Json) (expected : String) : Except DecodeError α :=
  .error (.invalidType (foundJson v) expected)

/-- A natural number of a type. No JSON text gives a whole number that 64 bits cannot hold. -/
def readNatural (type : String) : Json → Except DecodeError Nat
  | .int n => if 0 ≤ n then .ok n.toNat else .error (.invalidValue (foundWhole n) type)
  | v => unexpected v type

/-- A truth value. -/
def readFlag : Json → Except DecodeError Bool
  | .bool b => .ok b
  | v => unexpected v "a boolean"

instance : Document Json where
  shape
    | .object members => .named (members.map fun m => (.name m.1, m.2))
    | .array items => .ordered items
    | v => .other (foundJson v)
  natural := readNatural
  flag := readFlag

/-- A text, or what else is expected to be written as a text. -/
def readTextOf (expected : String) : Json → Except DecodeError String
  | .string s => .ok s
  | v => unexpected v expected

/-- A text. -/
def readText : Json → Except DecodeError String := readTextOf "a string"

/-- A value that may be null. -/
def readOption {α : Type} (read : Json → Except DecodeError α) : Json → Except DecodeError (Option α)
  | .null => .ok none
  | v => (read v).map some

/-- The items of a list. -/
def readAll {α : Type} (read : Json → Except DecodeError α) : List Json → Except DecodeError (List α)
  | [] => .ok []
  | v :: rest =>
      match read v with
      | .error e => .error e
      | .ok a => (readAll read rest).map (a :: ·)

/-- A list. -/
def readList {α : Type} (read : Json → Except DecodeError α) : Json → Except DecodeError (List α)
  | .array items => readAll read items
  | v => unexpected v "a sequence"

/-- A set of names, in which repetitions do not matter. -/
def readNames (v : Json) : Except DecodeError NameSet := (readList readText v).map Dict.ofNames

/-- The members of a dictionary of texts. -/
def readEntries : List (String × Json) → Except DecodeError (List (String × String))
  | [] => .ok []
  | (name, v) :: rest =>
      match readText v with
      | .error e => .error e
      | .ok s => (readEntries rest).map ((name, s) :: ·)

/-- A dictionary of texts. -/
def readDict : Json → Except DecodeError (Dict String)
  | .object members => (readEntries members).map Dict.ofList
  | v => unexpected v "a map"

/-- The value with the word. -/
def readWordOf (α : Type) [Vocabulary α] (s : String) : Except DecodeError α :=
  match Vocabulary.ofWord? s with
  | some a => .ok a
  | none => .error (.unknownVariant s (Vocabulary.words α))

/-- A word, alone or as the only name in an object, with nothing under it. -/
def readWord {α : Type} [Vocabulary α] : Json → Except DecodeError α
  | .string s => readWordOf α s
  | .object [(name, v)] =>
      match readWordOf α name, v with
      | .ok a, .null => .ok a
      | .ok _, v => unexpected v "unit"
      | .error e, _ => .error e
  | .object _ => .error (.invalidValue "map" "map with a single key")
  | v => unexpected v "string or map"

/-- A text in a form of its own. -/
def readFormatted {α : Type} (expected : String) (ofText? : String → Option α) (v : Json) :
    Except DecodeError α :=
  match readTextOf expected v with
  | .error e => .error e
  | .ok s =>
      match ofText? s with
      | some a => .ok a
      | none => .error (.malformed s)

/-- An identifier. -/
def readUuid : Json → Except DecodeError Uuid := readFormatted "a UUID string" Uuid.ofText?

/-- A point in time. -/
def readTimestamp : Json → Except DecodeError Timestamp :=
  readFormatted "an RFC 3339 formatted date and time string" Timestamp.ofText?

/-! ## Writing -/

/-- A value that may be absent. -/
def writeOption {α : Type} (write : α → Json) : Option α → Json
  | none => .null
  | some a => write a

/-- A word. -/
def writeWord {α : Type} [Vocabulary α] (a : α) : Json := .string (word a)

/-- A set of names, in ascending order. -/
def writeNames (names : NameSet) : Json := .array (names.keys.map .string)

/-- A dictionary of texts. -/
def writeDict (d : Dict String) : Json := .object (d.entries.map fun e => (e.1, .string e.2))

/-- An identifier. -/
def writeUuid (u : Uuid) : Json := .string u.text

/-- A point in time. -/
def writeTimestamp (t : Timestamp) : Json := .string t.text

end ServiceBus.Wire
