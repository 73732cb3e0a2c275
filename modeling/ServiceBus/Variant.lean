import ServiceBus.Service

set_option autoImplicit false

/-! # Variants of commands

How a command goes about an exchange follows from the pattern of the operation, and for
operations with a response from whether its caller waits for it. -/

namespace ServiceBus

/-- How a command goes about an exchange. -/
inductive Variant where
  /-- A request without an answer. -/
  | oneWay
  /-- A request without an answer, whose sender takes faults. -/
  | callback
  /-- A request with a response, which the caller waits for if `sync` is set. -/
  | requestResponse (sync : Bool)
  deriving DecidableEq, Repr, Inhabited

namespace Variant

/-- The name of a variant. -/
def name : Variant → String
  | .oneWay => "one_way"
  | .callback => "callback"
  | .requestResponse true => "request_response_sync"
  | .requestResponse false => "request_response"

/-- The variant for an operation; `sync` matters only where there is a response. -/
def ofOperation (o : Operation) (sync : Bool) : Variant :=
  match o.pattern with
  | .inOut => .requestResponse sync
  | .robustOneWay => .callback
  | .oneWay => if o.hasCallback then .callback else .oneWay

end Variant

end ServiceBus
