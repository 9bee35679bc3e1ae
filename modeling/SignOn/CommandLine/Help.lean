import SignOn.CommandLine.Arguments
/-!
# Help

The texts that the command line prints instead of starting the service.
-/

namespace SignOn

namespace CommandLine

/-- The name of the command. -/
def commandName : String :=
  "sso-server"

/-- The version of the command. -/
def version : String :=
  "0.1.0"

/-- The line that names the version. -/
def versionText : String :=
  s!"{commandName} {version}\n"

/-- Every option as it is written, with what it does. -/
def helpEntries (env : Config.Environment) : List (String × String) :=
  let path := (env configVariable).getD ""
  [("      " ++ Choice.config.shown,
      s!"Path to the TOML config file [env: {configVariable}={path}]"),
    ("      " ++ Choice.host.shown, "Override the listen host"),
    ("      " ++ Choice.port.shown, "Override the listen port"),
    ("      " ++ Choice.dbPath.shown, "Override the path to the SQLite database file"),
    ("      " ++ Choice.logLevel.shown,
      "Override the log level (e.g. `debug`, `sso_server=trace`)"),
    ("      --log-json", "Output logs as JSON (for structured log aggregation)"),
    ("  -h, --help", "Print help"),
    ("  -V, --version", "Print version")]

/-- Lines of two columns. -/
def columns (entries : List (String × String)) : String :=
  let width := entries.foldl (fun w e => max w e.1.length) 0
  String.join (entries.map fun (left, right) =>
    left ++ String.ofList (List.replicate (width - left.length + 2) ' ') ++ right ++ "\n")

/-- The help text. -/
def helpText (env : Config.Environment) : String :=
  "SSO identity server - users, tokens and profiles over gRPC\n\n" ++
  s!"Usage: {commandName} [OPTIONS]\n\n" ++
  "Options:\n" ++ columns (helpEntries env)

end CommandLine

end SignOn
