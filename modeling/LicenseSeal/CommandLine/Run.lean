import LicenseSeal.CommandLine.Command
import LicenseSeal.CommandLine.Session
import LicenseSeal.License.Generate
import LicenseSeal.License.Parse
import LicenseSeal.Template.Fingerprint

/-!
# Running commands

`run` reads a command line and runs its command on the files.  The exit code says how it ended: zero
for success, one for an error, two for a signature that is not valid or a misused command line, and
three for a corrupted document or, if it was asked for, an improper template.
-/

namespace LicenseSeal.CommandLine

/-- The exit code for a signature that is not valid. -/
def invalidCode : Nat := 2

/-- The exit code for a corrupted document and for an improper template. -/
def corruptedCode : Nat := 3

/-- The value that is printed for a parsed license. -/
def licenseValue (license : ParsedLicense) : Value :=
  let data :=
    match license.data with
    | .text content => .text content
    | .fields values => .map (values.entries.map fun entry => (.text entry.1, entry.2))
  .map [(.text "valid".text, .bool license.valid), (.text "serial".text, .text license.serial),
    (.text "data".text, data)]

/-- The value that is printed for a fragment that looks like a placeholder. -/
def fragmentValue (fragment : Unsupported) : Value :=
  .map [(.text "kind".text, .text fragment.kind.word),
    (.text "text".text, .text fragment.text),
    (.text "start".text, .int fragment.start), (.text "end".text, .int fragment.stop)]

/-- The value that is printed for a template. -/
def templateValue (config : Config) (scan : Scan) (fingerprint : Text) : Value :=
  .map [(.text "fields".text, .list (scan.fields.map Value.text)),
    (.text "has_serial".text, .bool (scan.fields.contains config.names.serial)),
    (.text "duplicates".text, .list (scan.duplicates.map Value.text)),
    (.text "unsupported".text, .list (scan.unsupported.map fragmentValue)),
    (.text "fingerprint".text, .text fingerprint)]

namespace Run

/-- Prints a value as a line of JSON. -/
def printValue (value : Value) : Run Unit :=
  match Json.write .refuse value with
  | .ok text => printLine text
  | .error error => throw (.failure (.textFile (.unwritable error)))

/-- The configuration of a command. -/
def config (environment : Option Text) (path : Option Path) : Run (Except Failure Config) := do
  let files ← files
  pure ((Config.loadGiven files environment path).mapError .config)

/-- The text of a file in the encoding of a configuration. -/
def text (config : Config) (path : Path) : Run (Except Failure Text) := do
  let files ← files
  pure ((files.readText path config.encoding).mapError .textFile)

def template (config : Config) : Option Path → Run (Option Text)
  | none => pure none
  | some path => do
      let found ← text config path
      some <$> reported found

end Run

namespace GenerateCommand

open Run

/-- Ends the command if its output is there and is not to be replaced. -/
def checkOutput (command : GenerateCommand) : Run Unit := do
  match command.out with
  | none => pure ()
  | some out =>
      let files ← files
      match files.pathTaken out with
      | .error error => throw (.failure (.textFile (.file error)))
      | .ok taken =>
          if taken && !command.force then
            stop errorCode
              ("output already exists: ".text ++ out.text ++ " (use --force).".text)
          else pure ()

def licenseData (command : GenerateCommand) : Run (Option LicenseData) := do
  match command.dataFile with
  | none => pure (command.data.map LicenseData.text)
  | some path =>
      let files ← files
      let fields ← reported ((loadData files path).mapError .data)
      pure (some (.fields fields))

/-- Generates the document of a command. -/
def document (environment : Option Text) (command : GenerateCommand) :
    Run (Config × Text) := do
  let loaded ← Run.config environment command.config
  let config ← reported loaded
  let data ← command.licenseData
  let template ← Run.template config command.template
  let request : GenerateRequest := ⟨data, ⟨none, some command.privateKey⟩, none, template⟩
  let files ← files
  let outcome ← traced (request.run config files)
  let document ← reported outcome
  pure (config, document)

def run (environment : Option Text) (command : GenerateCommand) : Run Unit := do
  if command.data.isSome = command.dataFile.isSome then
    stop errorCode "exactly one of --data or --data-file is required.".text
  command.checkOutput
  let (config, document) ← command.document environment
  match command.out with
  | none => print document
  | some out =>
      written "write output failed" (FileSystem.writeText out document config.encoding)
      printLine ("INFO: wrote license to ".text ++ out.text)

end GenerateCommand

namespace ParseCommand

open Run

/-- The result of parsing; a corrupted document ends the command with a code of its own. -/
def parsed (outcome : Except Failure ParsedLicense) : Run ParsedLicense :=
  match outcome with
  | .error (.license error) =>
      if error.isCorruption then
        stop corruptedCode ("document corrupted: ".text ++ error.message)
      else reported outcome
  | outcome => reported outcome

/-- Parses the document of a command. -/
def license (environment : Option Text) (command : ParseCommand) : Run ParsedLicense := do
  let loaded ← Run.config environment command.config
  let config ← reported loaded
  let template ← Run.template config command.template
  let request : ParseRequest :=
    ⟨⟨none, some command.document⟩, ⟨none, some command.publicKey⟩, template, none⟩
  let files ← files
  let outcome ← traced (request.run config files)
  parsed outcome

def run (environment : Option Text) (command : ParseCommand) : Run Unit := do
  let license ← command.license environment
  let value := licenseValue license
  printValue value
  match command.jsonOut with
  | none => pure ()
  | some path => written "write result failed" (FileSystem.writeJson path value)
  if license.valid then pure () else stop invalidCode "signature is not valid".text

end ParseCommand

namespace InspectCommand

open Run

/-- The result of reading a file; here a refusal of the system is reported as well. -/
def readable {α : Type} (outcome : Except Failure α) : Run α :=
  match outcome with
  | .ok result => pure result
  | .error failure =>
      if failure.isImproper || failure.isRefusal then stop errorCode (described failure)
      else throw (.failure failure)

/-- The fingerprint of a template; one that has none ends the command. -/
def fingerprint (template : Text) : Run Text :=
  match Template.fingerprint template with
  | .ok fingerprint => pure fingerprint
  | .error error => throw (.failure (.unencodable error))

/-- The configuration and the template of a command. -/
def reading (environment : Option Text) (command : InspectCommand) : Run (Config × Text) := do
  let loaded ← Run.config environment command.config
  let config ← readable loaded
  let found ← Run.text config command.template
  let template ← readable found
  pure (config, template)

def run (environment : Option Text) (command : InspectCommand) : Run Unit := do
  let (config, template) ← command.reading environment
  let scan := Template.scan template
  let fingerprint ← fingerprint template
  printValue (templateValue config scan fingerprint)
  let count := scan.unsupported.length
  if command.strict && count ≠ 0 then
    stop corruptedCode
      ("unsupported placeholders (count=".text ++ Text.ofNat count ++ ")".text)
  else pure ()

end InspectCommand

def Command.run (environment : Option Text) : Command → Run Unit
  | .generate command => command.run environment
  | .parse command => command.run environment
  | .inspect command => command.run environment

/-- What a command line leaves. -/
structure Report where
  ending : Ending
  printed : Text
  logged : Text
  files : FileSystem

namespace Report

def exitCode (report : Report) : Nat :=
  match report.ending with
  | .exit code => code
  | .misuse => 2
  | .failure _ => Run.errorCode

end Report

/-- A record as it is shown: warnings and what is heavier by their messages, or everything from
information on with its origin and its level. -/
def shownRecord (verbose : Bool) (record : LogRecord) : Text :=
  if verbose then
    if record.level.reaches .info then
      "licensefile.license ".text ++ record.level.name ++ " ".text ++ record.message ++ "\n".text
    else []
  else if record.level.reaches .warning then record.message ++ "\n".text
  else []

def Invocation.run (environment : Option Text) (files : FileSystem) (invocation : Invocation) :
    Report :=
  let (outcome, session) := ((invocation.command.run environment).run.run ⟨files, [], []⟩)
  let ending :=
    match outcome with
    | .ok () => .exit 0
    | .error ending => ending
  ⟨ending, session.printed, session.records.flatMap (shownRecord invocation.verbose),
    session.files⟩

def run (environment : Option Text) (files : FileSystem) (words : List Text) : Report :=
  match Invocation.ofWords? files words with
  | some invocation => invocation.run environment files
  | none => ⟨.misuse, [], [], files⟩

end LicenseSeal.CommandLine
