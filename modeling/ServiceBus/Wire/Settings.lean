import ServiceBus.Settings
import ServiceBus.Wire.Leaf

set_option autoImplicit false

/-! # Settings in documents

The form of the settings, which is the same for all kinds of documents, and their JSON form. A
section that is there has to have the members without a default. -/

namespace ServiceBus.Wire

/-- How the settings for exchanges are read. -/
def exchangeSettingsForm {δ : Type} [Document δ] : Form δ ExchangeSettings :=
  ExchangeSettings.mk <$> .required "call_timeout_ms" (Document.natural "u64")
    <*> .defaulted "rethrow_failures" Document.flag false

/-- How the settings for notifications are read. -/
def notificationSettingsForm {δ : Type} [Document δ] : Form δ NotificationSettings :=
  NotificationSettings.mk <$> .required "enabled" Document.flag
    <*> .required "buffer_size" (Document.natural "usize")

/-- How the settings for failovers are read. -/
def resilienceSettingsForm {δ : Type} [Document δ] : Form δ ResilienceSettings :=
  ResilienceSettings.mk <$> .required "call_timeout_ms" (Document.natural "u64")

/-- Read the settings for exchanges. -/
def readExchangeSettings {δ : Type} [Document δ] : δ → Except DecodeError ExchangeSettings :=
  exchangeSettingsForm.read "struct ExchangeConfig"

/-- Read the settings for notifications. -/
def readNotificationSettings {δ : Type} [Document δ] :
    δ → Except DecodeError NotificationSettings :=
  notificationSettingsForm.read "struct NotificationConfig"

/-- Read the settings for failovers. -/
def readResilienceSettings {δ : Type} [Document δ] : δ → Except DecodeError ResilienceSettings :=
  resilienceSettingsForm.read "struct ResilienceConfig"

/-- How the settings are read. -/
def settingsForm {δ : Type} [Document δ] : Form δ Settings :=
  Settings.mk <$> .defaulted "exchange" readExchangeSettings {}
    <*> .defaulted "notifications" readNotificationSettings {}
    <*> .defaulted "resilience" readResilienceSettings {}

/-- Read settings. -/
def readSettings {δ : Type} [Document δ] (d : δ) : Except DecodeError Settings :=
  settingsForm.read "struct EngineConfig" d

/-- Write settings. -/
def writeSettings (s : Settings) : Json :=
  .object
    [("exchange",
        .object
          [("call_timeout_ms", .int s.exchange.callTimeout),
            ("rethrow_failures", .bool s.exchange.rethrowFailures)]),
      ("notifications",
        .object
          [("buffer_size", .int s.notifications.bufferSize),
            ("enabled", .bool s.notifications.enabled)]),
      ("resilience", .object [("call_timeout_ms", .int s.resilience.callTimeout)])]

end ServiceBus.Wire
