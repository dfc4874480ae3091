import LicenseSeal.Config
import LicenseSeal.FileSystem.TextFile
import LicenseSeal.Text.Blank
import LicenseSeal.Yaml.Reader

/-!
# Configuration files

A configuration is read from a YAML file.  Its template can stand in a file of its own, which is
given by a path from the directory of the configuration and read in the configured encoding.
-/

namespace LicenseSeal

/-- Why a configuration file gives no configuration. -/
inductive ConfigError where
  | notFound (path : Path)
  /-- The file is no YAML. -/
  | malformed (path : Path)
  /-- A scalar in the file has no value. -/
  | badScalar (error : Yaml.ReadError)
  | notMapping (path : Path)
  /-- The template is given by its text and by the path of its file. -/
  | templateTwice (path : Path)
  /-- What is given as the path of the template's file is no text. -/
  | badTemplatePath (path : Path)
  /-- The file of the template, by its names from the root, cannot be read. -/
  | unreadableTemplate (location : Location)
  /-- A setting is missing, wrong or unknown. -/
  | faulty (path : Path)
  | unknownEncoding (name : Text) (path : Path)
  /-- What is given as an encoding has no text. -/
  | uncoercible (error : Uncoercible)
  /-- A file cannot be read as a text, or a name cannot be looked up. -/
  | textFile (error : TextFileError)

namespace ConfigError

/-- The name that an error is reported under. -/
def name : ConfigError → Text
  | .textFile error => error.name
  | .badScalar error => error.name
  | .uncoercible error => error.name
  | _ => "ValueError".text

def message : ConfigError → Text
  | .notFound path => "Config file not found: ".text ++ path.text
  | .malformed path => "Invalid YAML in config file: ".text ++ path.text
  | .badScalar error => error.message
  | .notMapping path => "Config file must contain a mapping: ".text ++ path.text
  | .templateTwice path =>
      "Use either default_template or default_template_path in ".text ++ path.text
        ++ ", not both".text
  | .badTemplatePath path => "default_template_path must be a string: ".text ++ path.text
  | .unreadableTemplate location =>
      "Cannot read default template: ".text ++ Path.absoluteText location
  | .faulty path => "Invalid config schema: ".text ++ path.text
  | .unknownEncoding name path =>
      "Unknown encoding '".text ++ name ++ "' in ".text ++ path.text
  | .uncoercible error => error.message
  | .textFile error => error.message

/-- Whether what was given has an improper content. -/
def isImproper : ConfigError → Bool
  | .textFile error => error.isImproper
  | .badScalar error => error.isImproper
  | .uncoercible error => error.isImproper
  | _ => true

end ConfigError

namespace Config

/-- The key of the path of the template's file. -/
def templatePathKey : Scalar := .text "default_template_path".text

/-- The entries of a configuration file. -/
def readEntries (files : FileSystem) (path : Path) :
    Except ConfigError (List (Scalar × Value)) :=
  match files.readLines path with
  | .error (.file (.refused .missing _ _)) => .error (.notFound path)
  | .error error => .error (.textFile error)
  | .ok text =>
      match Yaml.read text with
      | .error .malformed => .error (.malformed path)
      | .error error => .error (.badScalar error)
      | .ok (.map entries) => .ok entries
      | .ok _ => .error (.notMapping path)

/-- The name of the encoding among entries that are not checked yet. -/
def encodingName (entries : List (Scalar × Value)) : Except ConfigError Text :=
  match given? entries .encoding with
  | none => .ok "utf-8".text
  | some value => value.ownText.mapError .uncoercible

/-- The text of the template's file, in the encoding that is given among entries. -/
def readTemplate (files : FileSystem) (entries : List (Scalar × Value)) (path : Path) :
    Except ConfigError Text :=
  let location := path.absolute files.current
  match path.resolvingFault? with
  | some fault => .error (.textFile (.file (.unusable fault)))
  | none =>
    match files.read ⟨['/'], location⟩ with
    | .error _ => .error (.unreadableTemplate location)
    | .ok bytes => do
        match Encoding.decodeAs files.codecs (← encodingName entries) bytes with
        | .ok text => pure text
        | .error (.malformed _) => throw (.unreadableTemplate location)
        | .error (.bare message) => throw (.textFile (.bare message))
        | .error (.noEncoding error) =>
            if error.isUnknown then throw (.unreadableTemplate location)
            else throw (.textFile (.noEncoding error))

/-- The entries with the text of the template's file in place of its path. -/
def withTemplate (files : FileSystem) (path : Path) (entries : List (Scalar × Value)) :
    Except ConfigError (List (Scalar × Value)) :=
  let others := entries.filter fun entry => entry.1 ≠ templatePathKey
  match Value.ofKey? templatePathKey entries with
  | none | some (.scalar .null) => .ok others
  | some given =>
      if (given? entries .defaultTemplate).isSome then .error (.templateTwice path)
      else
        match given with
        | .scalar (.text written) => do
            let templatePath := path.parent.join (Path.ofText written)
            let template ← readTemplate files entries templatePath
            pure (others ++ [(Setting.defaultTemplate.key, .text template)])
        | _ => .error (.badTemplatePath path)

/-- The configuration of entries, whose encoding has to be known. -/
def checked (path : Path) (entries : List (Scalar × Value)) : Except ConfigError Config :=
  match ofEntries entries with
  | .error _ => .error (.faulty path)
  | .ok config =>
      match Encoding.meaning config.encoding with
      | .ok _ => .ok config
      | .error error =>
          if error.isUnknown then .error (.unknownEncoding config.encoding path)
          else .error (.textFile (.noEncoding error))

/-- Loads the configuration of a file. -/
def load (files : FileSystem) (path : Path) : Except ConfigError Config := do
  let entries ← readEntries files path
  let entries ← withTemplate files path entries
  checked path entries

/-- Loads the configuration that is used when none is given: that of the file which the environment
names, or the built-in one. -/
def loadDefault (files : FileSystem) (environment : Option Text) : Except ConfigError Config :=
  let named := Text.trimBy Text.isBlank (environment.getD [])
  if named.isEmpty then .ok builtIn else load files (Path.ofText named)

/-- Loads the configuration of a file if one is given, and otherwise the default one. -/
def loadGiven (files : FileSystem) (environment : Option Text) :
    Option Path → Except ConfigError Config
  | some path => load files path
  | none => loadDefault files environment

end Config

end LicenseSeal
