import SignOn.Config.Layers
/-!
# Arguments

The command line has five options that take a value, either attached with
an equals sign or as the next argument, and three flags. An option or
flag may stand once. The value of an option that comes as an argument of
its own is judged only when something else is read after it, so that an
argument which is not known is reported first.
-/

namespace SignOn

namespace CommandLine

/-- The options that take a value. -/
inductive Choice
  | config
  | host
  | port
  | dbPath
  | logLevel
deriving Repr, DecidableEq

namespace Choice

/-- All options, in their order. -/
def all : List Choice :=
  [.config, .host, .port, .dbPath, .logLevel]

/-- The name of an option. -/
def name : Choice → String
  | .config => "config"
  | .host => "host"
  | .port => "port"
  | .dbPath => "db-path"
  | .logLevel => "log-level"

/-- What stands for the value of an option in messages. -/
def placeholder : Choice → String
  | .config => "CONFIG"
  | .host => "HOST"
  | .port => "PORT"
  | .dbPath => "DB_PATH"
  | .logLevel => "LOG_LEVEL"

/-- An option in messages. -/
def shown (c : Choice) : String :=
  s!"--{c.name} <{c.placeholder}>"

/-- The option of a name. -/
def ofName? (name : String) : Option Choice :=
  all.find? fun c => c.name == name

end Choice

/-- The flags. -/
inductive Flag
  | logJson
  | help
  | version
deriving Repr, DecidableEq

namespace Flag

/-- The name of a flag. -/
def name : Flag → String
  | .logJson => "log-json"
  | .help => "help"
  | .version => "version"

/-- The flag of a name. -/
def ofName? (name : String) : Option Flag :=
  [logJson, help, version].find? fun f => f.name == name

/-- The flag of a letter. -/
def ofLetter? : Char → Option Flag
  | 'h' => some .help
  | 'V' => some .version
  | _ => none

end Flag

/-! ## Errors -/

/-- What is wrong with a command line. -/
inductive UsageError
  | unexpected (argument : String)
  | valueMissing (c : Choice)
  | valueUnwanted (value : String) (f : Flag)
  | repeated (shown : String)
  | valueRefused (value : String) (c : Choice) (reason : String)
deriving Repr, DecidableEq

/-- The text of an error. -/
def UsageError.message : UsageError → String
  | .unexpected argument => s!"error: unexpected argument '{argument}' found"
  | .valueMissing c => s!"error: a value is required for '{c.shown}' but none was supplied"
  | .valueUnwanted value f =>
    s!"error: unexpected value '{value}' for '--{f.name}' found; no more were expected"
  | .repeated shown => s!"error: the argument '{shown}' cannot be used multiple times"
  | .valueRefused value c reason =>
    s!"error: invalid value '{value}' for '{c.shown}': {reason}"

/-- Why the command line starts nothing. -/
inductive Stop
  | help
  | version
  | usage (e : UsageError)
deriving Repr, DecidableEq

/-! ## Values -/

/-- A signed 64-bit number in decimal, or why a text is none. The first
character that is at fault decides. -/
def readDecimal (sign : Int) : List Char → Int → Except String Int
  | [], n => .ok n
  | c :: cs, n =>
    if ¬ c.isDigit then .error "invalid digit found in string"
    else
      let n := 10 * n + sign * (c.toNat - '0'.toNat : Nat)
      if Fits64 n then readDecimal sign cs n
      else if 0 < sign then .error "number too large to fit in target type"
      else .error "number too small to fit in target type"

/-- The number that a text writes, with an optional sign. -/
def readNumber (s : String) : Except String Int :=
  match s.toList with
  | [] => .error "cannot parse integer from empty string"
  | ['+'] => .error "invalid digit found in string"
  | ['-'] => .error "invalid digit found in string"
  | '+' :: cs => readDecimal 1 cs 0
  | '-' :: cs => readDecimal (-1) cs 0
  | cs => readDecimal 1 cs 0

/-- The port that a text writes. -/
def readPort (s : String) : Except String UInt16 := do
  let n ← readNumber s
  if 0 ≤ n ∧ n ≤ 65535 then .ok (UInt16.ofNat n.toNat)
  else .error s!"{n} is not in 0..=65535"

/-- What a command line says. -/
structure Arguments where
  config : Option String := none
  flags : Config.Flags := {}
deriving Repr, DecidableEq

/-- A path, which may not be empty. -/
def readPath (c : Choice) (value : String) : Except UsageError String :=
  if value = "" then .error (.valueMissing c) else .ok value

/-- Whether an option has been given. -/
def Arguments.has (a : Arguments) : Choice → Bool
  | .config => a.config.isSome
  | .host => a.flags.host.isSome
  | .port => a.flags.port.isSome
  | .dbPath => a.flags.dbPath.isSome
  | .logLevel => a.flags.logLevel.isSome

/-- Gives an option its value, once. -/
def Arguments.give (a : Arguments) (c : Choice) (value : String) :
    Except UsageError Arguments := do
  if a.has c then throw (.repeated c.shown)
  match c with
  | .config =>
    let path ← readPath c value
    return { a with config := some path }
  | .host => return { a with flags.host := some value }
  | .port =>
    match readPort value with
    | .ok port => return { a with flags.port := some port }
    | .error reason => throw (.valueRefused value c reason)
  | .dbPath =>
    let path ← readPath c value
    return { a with flags.dbPath := some path }
  | .logLevel => return { a with flags.logLevel := some value }

/-! ## Reading -/

/-- An option that has been read, with the value that followed it. -/
structure Pending where
  choice : Choice
  value : Option String
deriving Repr, DecidableEq

/-- Judges the option read last. -/
def settle (a : Arguments) : Option Pending → Except Stop Arguments
  | none => .ok a
  | some ⟨c, none⟩ => .error (.usage (.valueMissing c))
  | some ⟨c, some value⟩ => (a.give c value).mapError .usage

/-- Raises a flag. -/
def raise (a : Arguments) : Flag → Except Stop Arguments
  | .help => .error .help
  | .version => .error .version
  | .logJson =>
    if a.flags.logJson then .error (.usage (.repeated "--log-json"))
    else .ok { a with flags.logJson := true }

/-- A long name and the value attached to it. -/
def splitAttached (cs : List Char) : String × Option String :=
  let name := String.ofList (cs.takeWhile (· ≠ '='))
  match cs.dropWhile (· ≠ '=') with
  | _ :: value => (name, some (String.ofList value))
  | [] => (name, none)

/-- Reads a long option or flag. -/
def readLong (a : Arguments) (pending : Option Pending) (cs : List Char) :
    Except Stop (Arguments × Option Pending) := do
  let (name, attached) := splitAttached cs
  match Choice.ofName? name, Flag.ofName? name, attached with
  | some c, _, some value =>
    let a ← settle a pending
    let a ← (a.give c value).mapError .usage
    return (a, none)
  | some c, _, none =>
    let a ← settle a pending
    return (a, some ⟨c, none⟩)
  | none, some f, some value => throw (.usage (.valueUnwanted value f))
  | none, some f, none =>
    let a ← settle a pending
    let a ← raise a f
    return (a, none)
  | none, none, _ => throw (.usage (.unexpected ("--" ++ name)))

/-- Reads short flags, written together. -/
def readShort (a : Arguments) (pending : Option Pending) :
    List Char → Except Stop (Arguments × Option Pending)
  | [] => .ok (a, pending)
  | c :: cs =>
    match Flag.ofLetter? c with
    | some f => do
      let a ← settle a pending
      let a ← raise a f
      readShort a none cs
    | none => .error (.usage (.unexpected (String.ofList ['-', c])))

/-- Reads arguments. After a double dash nothing is an option any more. -/
def readAll (a : Arguments) (pending : Option Pending) : List String → Except Stop Arguments
  | [] => settle a pending
  | arg :: rest =>
    match arg.toList, pending with
    | ['-', '-'], _ =>
      match rest with
      | [] => settle a pending
      | next :: _ => .error (.usage (.unexpected next))
    | '-' :: '-' :: cs, _ => do
      let (a, pending) ← readLong a pending cs
      readAll a pending rest
    | '-' :: c :: cs, _ => do
      let (a, pending) ← readShort a pending (c :: cs)
      readAll a pending rest
    -- any other word is the value of the option before it, a lone dash too
    | _, some ⟨c, none⟩ => readAll a (some ⟨c, some arg⟩) rest
    | _, _ => .error (.usage (.unexpected arg))

/-- The variable that names the settings file where no option does. -/
def configVariable : String :=
  "SSO_CONFIG"

/-- What the command line and the environment say. -/
def Arguments.read (env : Config.Environment) (args : List String) : Except Stop Arguments := do
  let a ← readAll {} none args
  match a.config, env configVariable with
  | none, some path => (a.give .config path).mapError .usage
  | _, _ => return a

end CommandLine

end SignOn
