import SignOn.CommandLine.Startup
import SignOn.Json.Writer
/-!
# The command

The outermost layer: the command line, the environment, files and the
terminal. Everything is decided elsewhere. No listener is part of this
package, so the service always ends where it would start to serve.
-/

namespace SignOn

namespace Main

/-- The text of an error of the operating system. -/
def reason : IO.Error → String
  | .noFileOrDirectory .. => ConfigError.noSuchFile
  | .permissionDenied .. => "Permission denied (os error 13)"
  | .alreadyExists .. => "File exists (os error 17)"
  | .inappropriateType .. => "Is a directory (os error 21)"
  | e => toString e

/-- The result of an action, or the text of its error. -/
def attempt {α : Type} (action : IO α) : IO (Except String α) := do
  try
    return .ok (← action)
  catch e =>
    return .error (reason e)

/-- The directory of a path. -/
def directory (path : String) : Option String :=
  match (path.splitOn "/").dropLast with
  | [] => none
  | parts => some ("/".intercalate parts)

/-- Makes the directory of a path, if it has one, and then the file. -/
def makeFile (path : String) : IO Unit := do
  match directory path with
  | some "" => pure ()
  | some dir => IO.FS.createDirAll dir
  | none => pure ()
  IO.FS.withFile path .append fun _ => pure ()

/-- A record as a line of the log. -/
def line (c : LoggingConfig) (r : Log.Record) : String :=
  if c.json then
    (Json.ofMembers [("level", .ofString r.level.name),
      ("fields", .ofMembers [("message", .ofString r.message)]),
      ("target", .ofString r.target)]).write
  else s!"{r.level.name} {r.target}: {r.message}"

/-- Writes a record to the log. -/
def write (c : LoggingConfig) (r : Log.Record) : IO Unit :=
  match c.filePath with
  | some path => IO.FS.withFile path .append fun h => h.putStrLn (line c r)
  | none => IO.println (line c r)

/-- The machine that the command runs on. -/
def surroundings : IO (Startup.Surroundings IO) := do
  let names := CommandLine.configVariable :: Config.variableNames
  let values ← names.mapM fun name => return (name, ← IO.getEnv name)
  let home ← IO.getEnv "HOME"
  return {
    environment := fun name => (values.lookup name).join
    home := home
    fileContent := fun path => attempt do
      return (← IO.FS.readBinFile path).data.toList
    openLog := fun c =>
      match c.filePath with
      | some path => attempt (makeFile path)
      | none => return .ok ()
    writeLog := write
    openStore := fun _ path => return (← attempt (makeFile path)).mapError .io
    serve := fun _ _ => return .error "transport error" }

end Main

end SignOn

/-- Runs the command with its arguments. -/
def main (args : List String) : IO UInt32 := do
  let surroundings ← SignOn.Main.surroundings
  let outcome ← SignOn.Startup.run surroundings args
  IO.print outcome.stdout
  IO.eprint outcome.stderr
  return UInt32.ofNat outcome.exitCode
