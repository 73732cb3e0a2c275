import ServiceBus.Command
import ServiceBus.Diagnostic
import ServiceBus.Failover
import ServiceBus.Text.Numeral

set_option autoImplicit false

/-! # Inspecting the bus

Diagnostic texts of what a bus and a failover consist of: policies, settings, the environment,
commands that have not been executed, and controllers. -/

namespace ServiceBus.Diagnostic

/-! ## Policies and settings -/

/-- A policy. -/
def agreedPolicy (p : AgreedPolicy) : String :=
  record "AgreedPolicy"
    [("policy_id", Text.quote p.policyId),
      ("require_authentication", flag p.requireAuthentication),
      ("required_roles", set Text.quote p.requiredRoles.keys),
      ("transport_assertions", list Text.quote p.transportAssertions)]

/-- The settings. -/
def settings (s : Settings) : String :=
  record "EngineConfig"
    [("exchange",
        record "ExchangeConfig"
          [("call_timeout_ms", toString s.exchange.callTimeout),
            ("rethrow_failures", flag s.exchange.rethrowFailures)]),
      ("notifications",
        record "NotificationConfig"
          [("enabled", flag s.notifications.enabled),
            ("buffer_size", toString s.notifications.bufferSize)]),
      ("resilience",
        record "ResilienceConfig" [("call_timeout_ms", toString s.resilience.callTimeout)])]

/-- The decimals of a thousandth part, without zeros at the end. -/
def thousandths (n : Nat) : String :=
  if n = 0 then ""
  else
    "." ++ String.ofList ((Text.padded 10 3 n).reverse.dropWhile (· = '0')).reverse

/-- A number of milliseconds, in seconds as soon as there is a whole one. -/
def duration (milliseconds : Nat) : String :=
  if 1000 ≤ milliseconds then
    toString (milliseconds / 1000) ++ thousandths (milliseconds % 1000) ++ "s"
  else if milliseconds = 0 then "0ns"
  else toString milliseconds ++ "ms"

/-! ## The bus -/

/-- A cache of handlers. -/
def cache (c : HandlerCache) : String := record "HandlerCache" [("cached", toString c.size)]

/-- What commands share. -/
def environment {σ : Type} (s : Settings) (b : Bus σ) : String :=
  record "ExchangeEnvironment"
    [("handlers", cache b.cache), ("stored_exchanges", toString b.store.size),
      ("config", settings s)]

/-- A way to go about an exchange. -/
def variant : Variant → String
  | .oneWay => "OneWay(OneWayCommand)"
  | .callback => "Callback(" ++ record "CallbackCommand" [("one_way", "OneWayCommand")] ++ ")"
  | .requestResponse sync =>
      "RequestResponse(" ++ record "RequestResponseCommand" [("sync", flag sync)] ++ ")"

/-- A command that has not been executed. -/
def command (c : Command) : String :=
  record "Command"
    [("core",
        record "CommandCore"
          [("role", option (fun r => (word r).capitalize) c.role),
            ("scope", option (fun s => (word s).capitalize) c.scope),
            ("exchange_id", option (fun e : Exchange => e.id.text) c.exchange),
            ("has_handler", flag c.handler.isSome), ("rethrow", flag c.rethrow),
            ("failed", flag c.failed), ("throwable", option error c.failure), ("begin", "None"),
            ("end", "None")]),
      ("variant", variant c.variant), ("executed", flag c.executed)]

/-- A controller of calls with several candidates. -/
def controller {σ : Type} (c : Failover.Controller σ) : String :=
  record "ResilienceController"
    [("candidates", list (fun k => Text.quote k.endpoint) c.candidates),
      ("call_timeout", duration c.callTimeout), ("policy", option agreedPolicy c.policy)]

end ServiceBus.Diagnostic
