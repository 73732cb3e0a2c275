import ServiceBus.Failover.Cursor
import ServiceBus.Wire.Leaf

set_option autoImplicit false

/-! # The progress of a failover as JSON

Progress is written as an object with the name of the state and, where there is one, the index
of the candidate; it is also read from a list of the two. -/

namespace ServiceBus.Wire

open Failover (Progress)

/-- The states of a failover. -/
inductive ProgressState where
  | notStarted
  | attempting
  | succeeded
  | exhausted
  deriving DecidableEq

instance : Vocabulary ProgressState where
  all := [.notStarted, .attempting, .succeeded, .exhausted]
  word
    | .notStarted => "not_started"
    | .attempting => "attempting"
    | .succeeded => "succeeded"
    | .exhausted => "exhausted"

/-- How the rest of a document is read once its state is known. -/
def progressForm : ProgressState → Form Json Progress
  | .notStarted => pure .notStarted
  | .attempting => Progress.attempting <$> .required "index" (readNatural "usize")
  | .succeeded => Progress.succeeded <$> .required "index" (readNatural "usize")
  | .exhausted => pure .exhausted

/-- The record that a state is. -/
def ProgressState.record : ProgressState → String
  | .notStarted => "unit variant FailoverState::NotStarted"
  | .attempting => "struct variant FailoverState::Attempting"
  | .succeeded => "struct variant FailoverState::Succeeded"
  | .exhausted => "unit variant FailoverState::Exhausted"

/-- Read the name of a state. -/
def readProgressState (v : Json) : Except DecodeError ProgressState :=
  match readTextOf "variant identifier" v with
  | .error e => .error e
  | .ok s => readWordOf ProgressState s

/-- Read progress. -/
def readProgress : Json → Except DecodeError Progress
  | .object members =>
      match members.lookup "state" with
      | none => .error (.missingField "state")
      | some tag =>
          match readProgressState tag with
          | .error e => .error e
          | .ok state => (progressForm state).readAgain state.record (Json.object members)
  | .array [] => .error (.missingField "state")
  | .array (tag :: items) =>
      match readProgressState tag with
      | .error e => .error e
      | .ok state => (progressForm state).readAgain state.record (Json.array items)
  | v => unexpected v "internally tagged enum FailoverState"

/-- Write progress. -/
def writeProgress : Progress → Json
  | .notStarted => .object [("state", writeWord ProgressState.notStarted)]
  | .attempting index =>
      .object [("index", .int index), ("state", writeWord ProgressState.attempting)]
  | .succeeded index =>
      .object [("index", .int index), ("state", writeWord ProgressState.succeeded)]
  | .exhausted => .object [("state", writeWord ProgressState.exhausted)]

end ServiceBus.Wire
