import LicenseSeal.CommandLine.Arguments

/-!
# Commands

The commands of the program and the options that each of them takes.
-/

namespace LicenseSeal.CommandLine

/-- Generates a license. -/
structure GenerateCommand where
  privateKey : Path
  data : Option Text
  dataFile : Option Path
  template : Option Path
  config : Option Path
  /-- Where the document is written; without it the document is printed. -/
  out : Option Path
  /-- Whether an output that is there is replaced. -/
  force : Bool
  deriving DecidableEq, Repr

/-- Parses and verifies a license. -/
structure ParseCommand where
  publicKey : Path
  document : Path
  template : Option Path
  config : Option Path
  /-- Where the result is written besides being printed. -/
  jsonOut : Option Path
  deriving DecidableEq, Repr

/-- Shows what a template holds. -/
structure InspectCommand where
  template : Path
  /-- Whether fragments that look like placeholders are an error. -/
  strict : Bool
  config : Option Path
  deriving DecidableEq, Repr

/-- A command. -/
inductive Command where
  | generate (command : GenerateCommand)
  | parse (command : ParseCommand)
  | inspect (command : InspectCommand)
  deriving DecidableEq, Repr

def pathOf? (options : Fields Text) (name : String) : Option Path :=
  (options.get? name.text).map Path.ofText

def hasFlag (options : Fields Text) (name : String) : Bool :=
  options.contains name.text

namespace GenerateCommand

def forms : List OptionForm := [
  ⟨"--private-key", .file⟩, ⟨"--data", .text⟩, ⟨"--data-file", .file⟩, ⟨"--template", .file⟩,
  ⟨"--config", .file⟩, ⟨"--out", .path⟩, ⟨"--force", .flag⟩]

/-- The command of options, if all are given that have to be. -/
def ofOptions? (options : Fields Text) : Option GenerateCommand := do
  let privateKey ← pathOf? options "--private-key"
  pure {
    privateKey
    data := options.get? "--data".text
    dataFile := pathOf? options "--data-file"
    template := pathOf? options "--template"
    config := pathOf? options "--config"
    out := pathOf? options "--out"
    force := hasFlag options "--force" }

end GenerateCommand

namespace ParseCommand

def forms : List OptionForm := [
  ⟨"--public-key", .file⟩, ⟨"--document", .file⟩, ⟨"--template", .file⟩, ⟨"--config", .file⟩,
  ⟨"--json-out", .path⟩]

/-- The command of options, if all are given that have to be. -/
def ofOptions? (options : Fields Text) : Option ParseCommand := do
  let publicKey ← pathOf? options "--public-key"
  let document ← pathOf? options "--document"
  pure {
    publicKey, document
    template := pathOf? options "--template"
    config := pathOf? options "--config"
    jsonOut := pathOf? options "--json-out" }

end ParseCommand

namespace InspectCommand

def forms : List OptionForm := [
  ⟨"--template", .file⟩, ⟨"--strict", .flag⟩, ⟨"--config", .file⟩]

/-- The command of options, if all are given that have to be. -/
def ofOptions? (options : Fields Text) : Option InspectCommand := do
  let template ← pathOf? options "--template"
  pure { template, strict := hasFlag options "--strict", config := pathOf? options "--config" }

end InspectCommand

/-- A command, and whether its log is shown in full. -/
structure Invocation where
  verbose : Bool
  command : Command
  deriving DecidableEq, Repr

namespace Command

/-- The command of a name with the words behind it, if they are a proper use of it. -/
def ofWords? (files : FileSystem) (name : Text) (words : List Text) : Option Command :=
  if name = "generate".text then do
    let options ← readOptions? GenerateCommand.forms files words
    (GenerateCommand.ofOptions? options).map generate
  else if name = "parse".text then do
    let options ← readOptions? ParseCommand.forms files words
    (ParseCommand.ofOptions? options).map parse
  else if name = "inspect-template".text then do
    let options ← readOptions? InspectCommand.forms files words
    (InspectCommand.ofOptions? options).map inspect
  else none

end Command

namespace Invocation

/-- The options in front of the command's name. -/
def forms : List OptionForm := [⟨"--verbose", .flag⟩]

/-- The invocation of a command line, if it is a proper use of the program. -/
def ofWords? (files : FileSystem) (words : List Text) : Option Invocation :=
  match Arguments.ofWords? forms false words with
  | some ⟨options, name :: rest⟩ =>
      (Command.ofWords? files name rest).map fun command => ⟨!options.isEmpty, command⟩
  | _ => none

end Invocation

end LicenseSeal.CommandLine
