import ServiceBus.Wire.Settings
import ServiceBus.Wire.Yaml
import ServiceBus.Yaml.Merge

set_option autoImplicit false

/-! # Settings for an environment

Beside the sections of the settings, a document of settings may have sections that are named for
environments. The one of the environment that settings are wanted for is laid over the whole
document (`Settings.inEnvironment`); afterwards the sections of environments are dropped. -/

namespace ServiceBus.Settings

/-- The environments whose sections are known as such everywhere. -/
def knownEnvironments : List String := ["development", "test", "production"]

/-- The document with the section of an environment laid over it. -/
def withSection (environment : String) (root : Yaml) : Yaml :=
  match root.get? (.string environment) with
  | some upper => root.merge upper
  | none => root

/-- The document without the sections of environments. -/
def withoutSections (environment : String) : Yaml → Yaml
  | .mapping entries =>
      let names := knownEnvironments ++ [environment]
      .mapping (names.foldl (fun entries name => Yaml.discard (.string name) entries) entries)
  | v => v

/-- What a document says about the settings in an environment. -/
def inEnvironment (environment : String) (root : Yaml) : Yaml :=
  withoutSections environment (withSection environment root)

/-- The settings that a document gives for an environment. -/
def ofDocument (environment : String) (root : Yaml) : Except Wire.DecodeError Settings :=
  Wire.readSettings (inEnvironment environment root)

end ServiceBus.Settings
