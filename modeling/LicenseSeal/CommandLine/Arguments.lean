import LicenseSeal.Fields
import LicenseSeal.FileSystem

/-!
# Arguments

The words of a command line as options and other words.  An option is a word that begins with a
hyphen; its value is joined to it by an equals sign or is the next word, whatever that is.  Of a
repeated option the last value counts.
-/

namespace LicenseSeal.CommandLine

/-- What an option takes. -/
inductive OptionKind where
  /-- No value. -/
  | flag
  | text
  /-- The path of a file that is there. -/
  | file
  /-- The path of a file that need not be there. -/
  | path
  deriving DecidableEq, Repr

/-- An option under its name, the hyphens included. -/
structure OptionForm where
  name : String
  kind : OptionKind
  deriving DecidableEq, Repr

/-- The options that are given, a flag with an empty value, and the other words. -/
structure Arguments where
  options : List (Text × Text)
  others : List Text
  deriving DecidableEq, Repr

namespace Arguments

/-- Puts an option in front. -/
def withOption (name value : Text) (arguments : Arguments) : Arguments :=
  { arguments with options := (name, value) :: arguments.options }

/-- Puts another word in front. -/
def withOther (word : Text) (arguments : Arguments) : Arguments :=
  { arguments with others := word :: arguments.others }

/-- Whether a word is an option. -/
def isOption : Text → Bool
  | '-' :: _ :: _ => true
  | _ => false

/-- An option's name and the value joined to it. -/
def joinedValue (word : Text) : Text × Option Text :=
  match Text.cutAt? "=".text word with
  | some (name, value) => (name, some value)
  | none => (word, none)

/-- The options and the other words of a sequence of words.  Two hyphens end the options, and so
does the first other word unless they may be mixed. -/
def ofWords? (forms : List OptionForm) (mixed : Bool) : List Text → Option Arguments
  | [] => some ⟨[], []⟩
  | word :: rest =>
      if word = "--".text then some ⟨[], rest⟩
      else if isOption word then
        let (name, joined) := joinedValue word
        match forms.find? fun form => form.name.text = name, joined with
        | none, _ => none
        | some ⟨_, .flag⟩, some _ => none
        | some ⟨_, .flag⟩, none => (ofWords? forms mixed rest).map (withOption name [])
        | some _, some value => (ofWords? forms mixed rest).map (withOption name value)
        | some _, none =>
            match rest with
            | [] => none
            | value :: rest => (ofWords? forms mixed rest).map (withOption name value)
      else if mixed then (ofWords? forms mixed rest).map (withOther word)
      else some ⟨[], word :: rest⟩

end Arguments

/-- Whether an option can have a value: a path must be one that the system can take. -/
def isValue (files : FileSystem) (kind : OptionKind) (value : Text) : Bool :=
  match kind with
  | .flag | .text => true
  | .file => files.isFile (Path.ofText value)
  | .path => (Path.ofText value).fault?.isNone

/-- Whether a given option is one of the forms and can have its value. -/
def isGiven (forms : List OptionForm) (files : FileSystem) (option : Text × Text) : Bool :=
  (forms.find? fun form => form.name.text = option.1).any fun form =>
    isValue files form.kind option.2

/-- The options of a command; of a repeated one only the last value is looked at. -/
def readOptions? (forms : List OptionForm) (files : FileSystem) (words : List Text) :
    Option (Fields Text) := do
  let arguments ← Arguments.ofWords? forms true words
  let options := Fields.ofList arguments.options
  if arguments.others.isEmpty && options.entries.all (isGiven forms files) then some options
  else none

end LicenseSeal.CommandLine
