import ServiceBus.Wire.DecodeError

set_option autoImplicit false

/-! # Forms

A form says how a record is read from a document: which members it has, in which order, how each
is read, and which may be absent. Forms are put together from single members with `pure` and
`<*>`.

A record is written as members with names or as a list in the order of the form. Among named
members the first that cannot be read decides about the error, in the order of the document; if
all can be read, the first that is missing does, in the order of the form. Members that the form
does not know are not looked at. -/

namespace ServiceBus.Wire

/-- What a member has for a name. -/
inductive Label where
  | name (s : String)
  /-- Something that is no text. -/
  | other (found : String)
  deriving DecidableEq

/-- A document as records see it. -/
inductive Shape (δ : Type) where
  /-- Members in the order of the document. -/
  | named (members : List (Label × δ))
  | ordered (items : List δ)
  /-- Nothing that a record can be read from. -/
  | other (found : String)

/-- Documents that records can be read from. -/
class Document (δ : Type) where
  shape : δ → Shape δ
  /-- Read a natural number that 64 bits can hold, of a type with this name. -/
  natural : String → δ → Except DecodeError Nat
  /-- Read a truth value. -/
  flag : δ → Except DecodeError Bool

/-- How a record is read. -/
structure Form (δ α : Type) where
  /-- The members and whether each can be read. -/
  checks : List (String × (δ → Except DecodeError Unit))
  /-- Read the record from its named members. -/
  named : (String → Option δ) → Except DecodeError α
  /-- Read the record from the items at the start of a list, and return those left over. The error
  for a list that ends before a member is told by the index of the member in the record, in which
  there are as many others in front of these as the second argument says. -/
  ordered : (Nat → DecodeError) → Nat → List δ → Except DecodeError (α × List δ)

namespace Form

variable {δ α β : Type}

/-- A form without members. -/
def const (a : α) : Form δ α where
  checks := []
  named _ := .ok a
  ordered _ _ items := .ok (a, items)

/-- The members of one form and then those of another. -/
def andThen (f : Form δ (α → β)) (x : Form δ α) : Form δ β where
  checks := f.checks ++ x.checks
  named members :=
    match f.named members with
    | .error e => .error e
    | .ok g => (x.named members).map g
  ordered tooShort index items :=
    match f.ordered tooShort index items with
    | .error e => .error e
    | .ok (g, items) =>
        (x.ordered tooShort (index + f.checks.length) items).map fun p => (g p.1, p.2)

instance : Applicative (Form δ) where
  pure := const
  seq f x := f.andThen (x ())

/-- A single member. `absent` is its value when it is missing among named members, and `short`
when the list ends before it. -/
def member (name : String) (read : δ → Except DecodeError α) (absent short : Option α) : Form δ α where
  checks := [(name, fun d => (read d).map fun _ => ())]
  named members :=
    match members name, absent with
    | some d, _ => read d
    | none, some a => .ok a
    | none, none => .error (.missingField name)
  ordered tooShort index
    | d :: items => (read d).map fun a => (a, items)
    | [] =>
        match short with
        | some a => .ok (a, [])
        | none => .error (tooShort index)

/-- A member that has to be there. -/
def required (name : String) (read : δ → Except DecodeError α) : Form δ α :=
  member name read none none

/-- A member that may be absent, but keeps its place in a list. -/
def optional (name : String) (read : δ → Except DecodeError (Option α)) : Form δ (Option α) :=
  member name read (some none) none

/-- A member with a default. -/
def defaulted (name : String) (read : δ → Except DecodeError α) (a : α) : Form δ α :=
  member name read (some a) (some a)

/-- The first error among named members, in their order; `seen` are names that the form knows
and that have been there. -/
def firstError (f : Form δ α) (seen : List String) : List (Label × δ) → Except DecodeError Unit
  | [] => .ok ()
  | (.other found, _) :: _ => .error (.invalidType found "field identifier")
  | (.name name, d) :: rest =>
      match f.checks.lookup name with
      | none => firstError f seen rest
      | some check =>
          if seen.contains name then .error (.repeated name)
          else
            match check d with
            | .error e => .error e
            | .ok () => firstError f (name :: seen) rest

/-- The error for a list that ends before the member with an index of the record `expected`. -/
def tooShort (f : Form δ α) (expected : String) (index : Nat) : DecodeError :=
  .invalidLength index (expected ++ " with " ++ itemCount f.checks.length)

/-- Read the record `expected` from a document. What is expected of a list with more items than the
record has members is told by `fewer`. -/
def readAs [Document δ] (expected fewer : String) (f : Form δ α) (d : δ) : Except DecodeError α :=
  match Document.shape d with
  | .named members =>
      match f.firstError [] members with
      | .error e => .error e
      | .ok () => f.named fun name => members.lookup (.name name)
  | .ordered items =>
      match f.ordered (f.tooShort expected) 0 items with
      | .error e => .error e
      | .ok (a, []) => .ok a
      | .ok (_, _ :: _) => .error (.invalidLength items.length fewer)
  | .other found => .error (.invalidType found expected)

/-- Read the record `expected` from a document. -/
def read [Document δ] (expected : String) (f : Form δ α) (d : δ) : Except DecodeError α :=
  f.readAs expected "fewer elements in array" d

/-- Read the record `expected` from a document that has been read before, to learn what record it
is. -/
def readAgain [Document δ] (expected : String) (f : Form δ α) (d : δ) : Except DecodeError α :=
  f.readAs expected (itemCount f.checks.length ++ " in sequence") d

end Form

end ServiceBus.Wire
