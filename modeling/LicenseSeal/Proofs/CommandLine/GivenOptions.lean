import LicenseSeal.CommandLine.Command
import LicenseSeal.Proofs.DistinctFields

/-!
# Given options

A command line that is read gives files that are there and outputs whose paths the system can take.
-/

namespace LicenseSeal.CommandLine

section Reading

variable {forms : List OptionForm} {files : FileSystem} {words : List Text} {options : Fields Text}
  {name : String} {path : Path}

theorem isValue_of_readOptions? {form : OptionForm} {value : Text}
    (read : readOptions? forms files words = some options)
    (found : forms.find? (fun form => form.name.text = name.text) = some form)
    (given : options.get? name.text = some value) : isValue files form.kind value = true := by
  simp only [readOptions?, Option.bind_eq_bind, Option.bind_eq_some_iff] at read
  obtain ⟨arguments, -, read⟩ := read
  split at read
  · next accepted =>
      obtain rfl := Option.some.inj read
      rw [Bool.and_eq_true, List.all_eq_true] at accepted
      have isGiven := accepted.2 _ (Fields.get?_eq_some_iff.mp given)
      simpa only [CommandLine.isGiven, found, Option.any_some] using isGiven
  · cases read

theorem isFile_of_pathOf? (read : readOptions? forms files words = some options)
    (found : forms.find? (fun form => form.name.text = name.text) = some ⟨name, .file⟩)
    (given : pathOf? options name = some path) : files.isFile path = true := by
  obtain ⟨value, written, rfl⟩ := Option.map_eq_some_iff.mp given
  exact isValue_of_readOptions? read found written

theorem fault?_of_pathOf? (read : readOptions? forms files words = some options)
    (found : forms.find? (fun form => form.name.text = name.text) = some ⟨name, .path⟩)
    (given : pathOf? options name = some path) : path.fault? = none := by
  obtain ⟨value, written, rfl⟩ := Option.map_eq_some_iff.mp given
  have proper := isValue_of_readOptions? read found written
  simpa only [isValue, Option.isNone_iff_eq_none] using proper

end Reading

/-- The files that a command reads its data and its template from are there, and the system can take
the path that it writes to. -/
def Command.Given (files : FileSystem) : Command → Prop
  | .generate command =>
      (∀ path, command.dataFile = some path → files.isFile path = true) ∧
        (∀ path, command.template = some path → files.isFile path = true) ∧
        ∀ path, command.out = some path → path.fault? = none
  | .parse command =>
      (∀ path, command.template = some path → files.isFile path = true) ∧
        ∀ path, command.jsonOut = some path → path.fault? = none
  | .inspect command => files.isFile command.template = true

variable {files : FileSystem} {words : List Text} {options : Fields Text}

theorem GenerateCommand.given {command : GenerateCommand}
    (read : readOptions? forms files words = some options)
    (ofOptions : ofOptions? options = some command) : (Command.generate command).Given files := by
  obtain ⟨privateKey, -, same⟩ := Option.bind_eq_some_iff.mp ofOptions
  obtain rfl := Option.some.inj same
  refine ⟨?_, ?_, ?_⟩
  · intro path given
    exact isFile_of_pathOf? read (by decide) given
  · intro path given
    exact isFile_of_pathOf? read (by decide) given
  · intro path given
    exact fault?_of_pathOf? read (by decide) given

theorem ParseCommand.given {command : ParseCommand}
    (read : readOptions? forms files words = some options)
    (ofOptions : ofOptions? options = some command) : (Command.parse command).Given files := by
  obtain ⟨publicKey, -, ofOptions⟩ := Option.bind_eq_some_iff.mp ofOptions
  obtain ⟨document, -, same⟩ := Option.bind_eq_some_iff.mp ofOptions
  obtain rfl := Option.some.inj same
  refine ⟨?_, ?_⟩
  · intro path given
    exact isFile_of_pathOf? read (by decide) given
  · intro path given
    exact fault?_of_pathOf? read (by decide) given

theorem InspectCommand.given {command : InspectCommand}
    (read : readOptions? forms files words = some options)
    (ofOptions : ofOptions? options = some command) : (Command.inspect command).Given files := by
  obtain ⟨template, given, same⟩ := Option.bind_eq_some_iff.mp ofOptions
  obtain rfl := Option.some.inj same
  exact isFile_of_pathOf? read (by decide) given

theorem Command.given_of_ofWords? {name : Text} {command : Command}
    (read : ofWords? files name words = some command) : command.Given files := by
  rw [ofWords?] at read
  split at read
  · obtain ⟨options, readOptions, built⟩ := Option.bind_eq_some_iff.mp read
    obtain ⟨command, ofOptions, rfl⟩ := Option.map_eq_some_iff.mp built
    exact GenerateCommand.given readOptions ofOptions
  · split at read
    · obtain ⟨options, readOptions, built⟩ := Option.bind_eq_some_iff.mp read
      obtain ⟨command, ofOptions, rfl⟩ := Option.map_eq_some_iff.mp built
      exact ParseCommand.given readOptions ofOptions
    · split at read
      · obtain ⟨options, readOptions, built⟩ := Option.bind_eq_some_iff.mp read
        obtain ⟨command, ofOptions, rfl⟩ := Option.map_eq_some_iff.mp built
        exact InspectCommand.given readOptions ofOptions
      · cases read

theorem Invocation.given_of_ofWords? {invocation : Invocation}
    (read : ofWords? files words = some invocation) : invocation.command.Given files := by
  rw [ofWords?.eq_def] at read
  split at read
  · obtain ⟨command, ofWords, rfl⟩ := Option.map_eq_some_iff.mp read
    exact Command.given_of_ofWords? ofWords
  · cases read

end LicenseSeal.CommandLine
