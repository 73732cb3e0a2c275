import ServiceBus.Settings.Environment
import ServiceBus.Text.LowerCase
import ServiceBus.Text.Quoted
import ServiceBus.Yaml.Reader

set_option autoImplicit false

/-! # Loading settings

Settings are loaded from the first file with one of two names that is in a directory. The file
has to be a regular one and not too large, its content has to be YAML with settings for the
environment (`Settings.ofDocument`), and the settings have to be valid (`Settings.invalid?`). In
what words the reader of YAML says that a text is none is taken as a parameter (`complaint`). -/

namespace ServiceBus

/-- What is found under a path. -/
inductive FileEntry where
  | directory
  | regular (content : ByteArray)

/-- The files that can be seen, by their paths. -/
abbrev FileView := String → Option FileEntry

/-- The variables of the process. -/
abbrev Variables := String → Option String

/-- Why settings cannot be loaded. -/
inductive LoadError where
  /-- No file is found under any of these paths. -/
  | notFound (searched : List String)
  /-- The content of a file is no text. -/
  | unreadable (path : String)
  /-- The content of a file is no YAML, as the reader says. -/
  | notYaml (path complaint : String)
  /-- No settings can be read from the content of a file. -/
  | undecodable (path : String) (e : Wire.DecodeError)
  /-- A property of the file or a setting is not allowed. -/
  | invalid (i : InvalidSetting)

/-- The message. -/
def LoadError.text : LoadError → String
  | .notFound searched =>
      "Configuration file not found. Searched paths: [" ++
        String.intercalate ", " (searched.map Text.quote) ++ "]"
  | .unreadable path =>
      "Failed to read configuration file '" ++ path ++ "': stream did not contain valid UTF-8"
  | .notYaml path complaint => "Invalid YAML in configuration file '" ++ path ++ "': " ++ complaint
  | .undecodable path e =>
      "Invalid YAML in configuration file '" ++ path ++
        "': Failed to deserialize configuration: " ++ e.message
  | .invalid i => i.text

/-- Settings with the environment and the directory that they have been loaded for. -/
structure LoadedSettings where
  settings : Settings
  environment : String
  directory : String

namespace Settings

/-! ## Where settings are looked for -/

/-- The environment that the variables name. -/
def environmentOf (value? : Variables) : String :=
  Text.lowerCase (((value? "SBB_ENV").or (value? "APP_ENV")).getD "development")

/-- The directory that the variables name. -/
def directoryOf (value? : Variables) : String := (value? "SBB_CONFIG_DIR").getD "config"

/-- The names of files with settings, the preferred one first. -/
def fileNames : List String := ["sbb-config.yaml", "sbb-config.yml"]

/-- The path of a file in a directory. -/
def pathIn (directory name : String) : String :=
  if directory.isEmpty || directory.endsWith "/" then directory ++ name
  else directory ++ "/" ++ name

/-- The paths where settings are looked for. -/
def pathsIn (directory : String) : List String := fileNames.map (pathIn directory)

/-! ## Files -/

/-- The size of the largest file that is read. -/
def maxFileSize : Nat := 1048576

/-- The text in a file. -/
def textOf (path : String) : FileEntry → Except LoadError String
  | .directory =>
      .error (.invalid
        ⟨"file_type", "directory or special file",
          "Configuration path must point to a regular file"⟩)
  | .regular content =>
      if maxFileSize < content.size then
        .error (.invalid
          ⟨"file_size", toString content.size,
            "Configuration file exceeds " ++ toString maxFileSize ++ " bytes"⟩)
      else
        match String.fromUTF8? content with
        | some s => .ok s
        | none => .error (.unreadable path)

section Documents

variable (complaint : String → String)

/-- The settings that the text of a file gives for an environment. -/
def ofText (path environment s : String) : Except LoadError Settings :=
  match Yaml.ofText? s with
  | none => .error (.notYaml path (complaint s))
  | some root => (ofDocument environment root).mapError (.undecodable path)

/-- The settings in a file, if they are valid. -/
def ofFile (path environment : String) (file : FileEntry) : Except LoadError Settings :=
  match (textOf path file).bind (ofText complaint path environment) with
  | .error e => .error e
  | .ok s =>
      match s.invalid? with
      | some i => .error (.invalid i)
      | none => .ok s

end Documents

/-! ## Loading -/

/-- The first of some paths that something is found under. -/
def findFile (files : FileView) (paths : List String) : Option (String × FileEntry) :=
  paths.findSome? fun path => (files path).map fun file => (path, file)

/-- Load the settings for an environment from a directory. -/
def load (complaint : String → String) (files : FileView) (directory environment : String) :
    Except LoadError LoadedSettings :=
  match findFile files (pathsIn directory) with
  | none => .error (.notFound (pathsIn directory))
  | some (path, file) =>
      (ofFile complaint path environment file).map fun s => ⟨s, environment, directory⟩

/-- Settings that are given for an environment, and not loaded from a file, if they are valid. -/
def given (s : Settings) (environment : String) : Except LoadError LoadedSettings :=
  match s.invalid? with
  | some i => .error (.invalid i)
  | none => .ok ⟨s, environment, "config"⟩

theorem invalid?_of_load {complaint : String → String} {files : FileView}
    {directory environment : String} {l : LoadedSettings}
    (h : load complaint files directory environment = .ok l) : l.settings.invalid? = none := by
  unfold load at h
  split at h
  · cases h
  · next path file _ =>
      unfold ofFile at h
      split at h
      · cases h
      · next s _ =>
          cases hi : s.invalid? with
          | some i => simp [hi, Except.map] at h
          | none =>
              simp only [hi, Except.map] at h
              cases h
              exact hi

end Settings

end ServiceBus
