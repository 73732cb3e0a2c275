import ServiceBus.Fault.Markup
import ServiceBus.Diagnostic

set_option autoImplicit false

/-! # Fault documents

A failure that has to travel as a message is written as a fault document: its kind, its reason,
the legacy name of the kind, and possibly a detail. A document is recognised by the opening of
its root element and by the namespace. The kind of a document without a known code is the first
legacy name found in its exception text, or else anywhere in the document. -/

namespace ServiceBus

open ServiceBus.Text ServiceBus.Fault

/-- The content of a fault document. -/
structure FaultDocument where
  kind : FaultKind
  reason : String
  exception : String
  detail : Option String
  deriving DecidableEq

namespace FaultDocument

/-- The document for a kind and a reason, with the legacy name of the kind. -/
def new (kind : FaultKind) (reason : String) : FaultDocument := ⟨kind, reason, kind.legacyName, none⟩

/-- The opening of the root element, up to its name. -/
def rootMark : List Char := '<' :: namespaceMark ++ ':' :: "Fault".toList

/-- The opening tag of the root element. -/
def rootTag : List Char :=
  rootMark ++ " xmlns:".toList ++ namespaceMark ++ "=\"".toList ++ busNamespace ++ "\">".toList

/-- The characters of the written document. -/
def chars (d : FaultDocument) : List Char :=
  rootTag ++ element "code" (word d.kind).toList ++ element "reason" d.reason.toList ++
    element "exception" d.exception.toList ++
    (match d.detail with
      | some detail => element "detail" detail.toList
      | none => []) ++
    closeTag "Fault"

/-- The written document. -/
def render (d : FaultDocument) : String := String.ofList d.chars

/-- Whether a text is a fault document of the bus. -/
def isFault (body : List Char) : Bool := occursIn rootMark body && occursIn busNamespace body

/-- The kinds in the order in which their legacy names are looked for. -/
def legacyOrder : List FaultKind := [.authentication, .authorization, .messaging, .generic]

/-- The first kind whose legacy name occurs in the text. -/
def legacyKind? (text : List Char) : Option FaultKind :=
  legacyOrder.find? fun k => occursIn k.legacyName.toList text

/-- The kind of a document with the given code and exception text. -/
def kindOf (code : Option (List Char)) (exception body : List Char) : FaultKind :=
  match code.bind fun c => (Vocabulary.ofWord? (String.ofList c) : Option FaultKind) with
  | some kind => kind
  | none =>
      match legacyKind? exception with
      | some kind => kind
      | none => (legacyKind? body).getD .generic

/-- Read a fault document from the characters of a text. -/
def ofChars? (body : List Char) : Option FaultDocument :=
  if isFault body then
    let exception := (elementText? "exception" body).getD []
    some
      { kind := kindOf (elementText? "code" body) exception body
        reason := String.ofList ((elementText? "reason" body).getD [])
        exception := String.ofList exception
        detail := (elementText? "detail" body).map String.ofList }
  else none

/-- Read a fault document from a text; no other text gives one. -/
def ofText? (body : String) : Option FaultDocument := ofChars? body.toList

/-- The failure that a document reports. -/
def toError (d : FaultDocument) : BusError := .remote d.kind d.reason

end FaultDocument

namespace BusError

/-- What a fault document tells about a failure besides its reason. -/
def detailText : BusError → String
  | .participant operation message declared none =>
      Diagnostic.error (.participant operation message declared none)
  | .participant _ _ _ (some detail) => detail
  | e => Diagnostic.error e

/-- The fault document for a failure. -/
def toFault (e : BusError) : FaultDocument :=
  { FaultDocument.new e.faultKind e.reason with detail := some e.detailText }

/-- The failure that a text reports, if it is a fault document. -/
def ofFault? (body : String) : Option BusError := (FaultDocument.ofText? body).map (·.toError)

/-- The failure that a text from the other side reports; one that is no fault document is taken
as the message of a failure whose kind is told by a legacy name. -/
def ofRemote (body : String) : BusError :=
  (ofFault? body).getD
    (.remote ((FaultDocument.legacyKind? body.toList).getD .generic) body)

end BusError

end ServiceBus
