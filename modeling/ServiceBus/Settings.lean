set_option autoImplicit false

/-! # Settings

The settings of the bus have three sections, each complete by default. They are valid when no
time limit is zero and there is room for at least one notification if notifications are made. -/

namespace ServiceBus

/-- Settings for the execution of commands. -/
structure ExchangeSettings where
  /-- The time limit of synchronous sends, in milliseconds. -/
  callTimeout : Nat := 30000
  /-- Whether new commands return failures of outgoing legs to their callers. -/
  rethrowFailures : Bool := false
  deriving DecidableEq

/-- Settings for notifications. -/
structure NotificationSettings where
  enabled : Bool := true
  bufferSize : Nat := 1000
  deriving DecidableEq

/-- Settings for calls with several candidate endpoints. -/
structure ResilienceSettings where
  /-- The time limit of every attempt, in milliseconds. -/
  callTimeout : Nat := 10000
  deriving DecidableEq

/-- The settings of the bus. -/
structure Settings where
  exchange : ExchangeSettings := {}
  notifications : NotificationSettings := {}
  resilience : ResilienceSettings := {}
  deriving DecidableEq

/-- A setting that is not allowed. -/
structure InvalidSetting where
  field : String
  value : String
  context : String
  deriving DecidableEq

/-- The setting that is not allowed in words. -/
def InvalidSetting.text (i : InvalidSetting) : String :=
  "Invalid value '" ++ i.value ++ "' for field '" ++ i.field ++ "': " ++ i.context

namespace Settings

/-- The first setting that is not allowed. -/
def invalid? (s : Settings) : Option InvalidSetting :=
  if s.exchange.callTimeout = 0 then
    some ⟨"exchange.call_timeout_ms", "0", "call timeout must be greater than 0"⟩
  else if s.resilience.callTimeout = 0 then
    some ⟨"resilience.call_timeout_ms", "0", "candidate call timeout must be greater than 0"⟩
  else if s.notifications.enabled = true ∧ s.notifications.bufferSize = 0 then
    some ⟨"notifications.buffer_size", "0",
      "buffer size must be greater than 0 when notifications are enabled"⟩
  else none

/-- Settings under which every time limit and every buffer in use is more than nothing. -/
def Valid (s : Settings) : Prop :=
  0 < s.exchange.callTimeout ∧ 0 < s.resilience.callTimeout ∧
    (s.notifications.enabled = true → 0 < s.notifications.bufferSize)

theorem invalid?_eq_none_iff (s : Settings) : s.invalid? = none ↔ s.Valid := by
  unfold invalid? Valid
  by_cases h₁ : s.exchange.callTimeout = 0
  · simp [h₁]
  · by_cases h₂ : s.resilience.callTimeout = 0
    · simp [h₁, h₂]
    · cases s.notifications.enabled <;> simp [h₁, h₂, Nat.pos_iff_ne_zero]

end Settings

end ServiceBus
