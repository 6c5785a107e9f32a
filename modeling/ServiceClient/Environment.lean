import ServiceClient.Service.Dialect

/-!
# The environment

The variables and files that a client finds around it, and the settings that they hold.

* `Environment`: the home directory, variables by name, files by path.
* `Environment.switches`: the switches of clients.
* `Environment.region?`, `profileFile`, `profileName`: where regions come from.
* `Settings.load`: log and timeouts of a process.
-/

namespace ServiceClient

/-- What a process finds around it. -/
structure Environment where
  /-- The home directory. -/
  home : String
  vars : List (String × String)
  files : List (String × Bytes)
deriving Repr, Inhabited

namespace Environment

/-- A variable without blanks around it, empty if it is not set. -/
def trimmed (e : Environment) (name : String) : String :=
  trim ((e.vars.lookup name).getD "")

/-- A variable that is compared as a word: without blanks around it and in lower case. -/
def word (e : Environment) (name : String) : String := lower (e.trimmed name)

/-- The truth value that a variable spells, if it spells one. -/
def truth? (e : Environment) (name : String) : Option Bool :=
  match e.word name with
  | "1" | "true" => some true
  | "0" | "false" => some false
  | _ => none

/-- Whether a variable is set to anything but `false`, the empty text included. -/
def isFlagSet (e : Environment) (name : String) : Bool :=
  (e.vars.lookup name).isSome && e.word name != "false"

/-- The switches of clients. -/
def switches (e : Environment) : Switches :=
  ⟨e.isFlagSet "AWS_CBOR_DISABLE", e.isFlagSet "AWS_ION_BINARY_DISABLE"⟩

/-- The region that overrides all others. -/
def region? (e : Environment) : Option String :=
  let region := e.trimmed "AWS_REGION"
  if region.isEmpty then none else some region

/-- The file of profiles, by default one in the home directory. -/
def profileFile (e : Environment) : String :=
  nonEmptyOr (e.home ++ "/.aws/config") (some (e.trimmed "AWS_CONFIG_FILE"))

/-- The profile to use. -/
def profileName (e : Environment) : String :=
  nonEmptyOr "default" (some (e.trimmed "AWS_PROFILE"))

end Environment

/-- What a process logs. -/
inductive LogChoice
  | trace
  | debug
  | info
  | warn
  | warning
  | error
deriving DecidableEq, Repr, Inhabited

namespace LogChoice

def name : LogChoice → String
  | trace => "trace"
  | debug => "debug"
  | info => "info"
  | warn => "warn"
  | warning => "warning"
  | error => "error"

def ofName? (name : String) : Option LogChoice :=
  [trace, debug, info, warn, warning, error].find? fun c => c.name == name

/-- The level of a choice; without one the debug switch decides. -/
def level (choice : Option LogChoice) (isDebug : Bool) : Int :=
  match choice with
  | some trace | some debug => 10
  | some info => 20
  | some warn | some warning => 30
  | some error => 40
  | none => if isDebug then 10 else 20

end LogChoice

/-- The choice of log that a variable names. -/
def Environment.logChoice? (e : Environment) (name : String) : Option LogChoice :=
  LogChoice.ofName? (e.word name)

/-- The settings of a process. -/
structure Settings where
  log : Option LogChoice
  debug : Bool
  connectionTimeout : Double
  socketTimeout : Double
deriving Repr

namespace Settings

/-- A number of seconds, or a default if the variable is empty. -/
def seconds (e : Environment) (name : String) (default : Int) : Except Failure Double :=
  let text := e.trimmed name
  if text.isEmpty then .ok (.ofInt default)
  else
    match Double.ofChars? text.toList with
    | some d => .ok d
    | none => .error (.number (quoteText text))

/-- The settings that the variables hold. A trace switches debugging on. -/
def load (e : Environment) : Except Failure Settings := do
  let log := e.logChoice? "SDK_LOG"
  let debug := e.truth? "DEBUG" == some true || log == some .trace
  return ⟨log, debug, ← seconds e "CONNECTION_TIMEOUT" 10, ← seconds e "SOCKET_TIMEOUT" 50⟩

/-- The level of the client's log. -/
def level (s : Settings) : Int := LogChoice.level s.log s.debug

/-- Whether the transport is traced. -/
def isTracing (s : Settings) : Bool := s.log == some .trace

/-- The threshold of a logger that stood at another one before: debugging lowers it. -/
def thresholdFrom (s : Settings) (before : Int) : Int := if s.debug then 10 else before

end Settings

end ServiceClient
