import LicenseSeal.CommandLine.Arguments
import LicenseSeal.Config.Load

/-!
# Places

The places that a command line can make a command look at.  They are known before the command runs,
but for the template that a configuration file names.
-/

namespace LicenseSeal

/-- The locations that a path passes on its way from a location, the last one included. -/
def Path.passed (current : Location) (path : Path) : List Location :=
  let start := if path.root.isEmpty then current else []
  (List.range path.parts.length).map fun count =>
    (path.parts.take (count + 1)).foldl Path.descend start

namespace CommandLine

/-- The paths that words can be or join to an option. -/
def namedPaths (words : List Text) : List Path :=
  words.flatMap fun word =>
    Path.ofText word :: ((Arguments.joinedValue word).2.map Path.ofText).toList

/-- The path that the environment names. -/
def environmentPath (environment : Option Text) : List Path :=
  environment.toList.map fun written => Path.ofText (Text.trimBy Text.isBlank written)

/-- The path of the template that a file names, if it is a configuration. -/
def templatePath? (files : FileSystem) (path : Path) : Option Path :=
  match Config.readEntries files path with
  | .error _ => none
  | .ok entries =>
      match Value.ofKey? Config.templatePathKey entries with
      | some (.scalar (.text written)) => some (path.parent.join (Path.ofText written))
      | _ => none

/-- The locations that paths pass. -/
def locationsOf (current : Location) (paths : List Path) : List Location :=
  (paths.flatMap (Path.passed current)).eraseDups

/-- The paths of the files that differ between two states, with their contents. -/
def changedFiles (before after : FileSystem) : List (Location × Bytes) :=
  after.entries.filterMap fun entry =>
    match entry.2 with
    | .file content => if before.entryAt? entry.1 = some (.file content) then none
        else some (entry.1, content)
    | .directory => none

end CommandLine

end LicenseSeal
