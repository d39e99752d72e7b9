import CandleRelay.Config.Load
import CandleRelay.Feed.Client
import CandleRelay.RelayError

/-!
# The command line

The program is started in one role, with settings from a file. Options may stand before and after
the role; a question for help or for the version is answered when it is met, if all before it was
right.

What the program finds around it is given, so its output and exit status are functions of the
arguments and of that: the settings at their place, whether a directory can be made and an address
be bound, and how the connections to the bus and to the exchange turn out.
-/

namespace CandleRelay.CommandLine

/-- What the process is for. -/
inductive Role where
  /-- From the exchange to the bus. -/
  | worker
  /-- From the bus to the clients. -/
  | gateway
  /-- Both, over a bus in the process itself. -/
  | standalone
  deriving DecidableEq, Repr

namespace Role

/-- The word for the role. -/
def word : Role → String
  | worker => "worker"
  | gateway => "gateway"
  | standalone => "standalone"

/-- The role with this word. -/
def ofWord? (word : String) : Option Role :=
  [worker, gateway, standalone].find? (·.word == word)

end Role

/-- What the arguments ask for. -/
inductive Request where
  | start (role : Role) (settings : Option String)
  | help
  | version
  /-- Nothing that makes sense. -/
  | misuse
  deriving DecidableEq, Repr

/-- The arguments so far: the word in the place of the role, and the settings file. -/
structure Arguments where
  role : Option String := none
  settings : Option String := none
  deriving DecidableEq, Repr

namespace Arguments

/-- Whether the word in the place of the role, if there is one, is a role. -/
def isSound (a : Arguments) : Bool := a.role.all (Role.ofWord? · |>.isSome)

/-- A question that is answered at once, unless something before it was wrong. -/
def ask (a : Arguments) (answer : Request) : Request := if a.isSound then answer else .misuse

/-- A word that is no option. There is place for one. -/
def word? (a : Arguments) (w : String) : Option Arguments :=
  if a.role.isNone then some { a with role := some w } else none

/-- A settings file. It is named once, and not by nothing. -/
def file? (a : Arguments) (path : String) : Option Arguments :=
  if a.settings.isNone && path != "" then some { a with settings := some path } else none

/-- All arguments have been read. -/
def finish (a : Arguments) : Request :=
  match a.role.bind Role.ofWord? with
  | some role => .start role a.settings
  | none => .misuse

/-- Only words are left. -/
def readWords (a : Arguments) : List String → Request
  | [] => a.finish
  | w :: rest =>
    match a.word? w with
    | some a => a.readWords rest
    | none => .misuse

/-- Whether an argument can be the value of the option before it. -/
def isValue (s : String) : Bool := s == "-" || s.toList.head? != some '-'

/-- Reads the arguments in turn. -/
def read (a : Arguments) : List String → Request
  | [] => a.finish
  | "--" :: rest => a.readWords rest
  | "--help" :: _ => a.ask .help
  | "--version" :: _ => a.ask .version
  | "--config" :: path :: rest =>
    if isValue path then
      match a.file? path with
      | some a => a.read rest
      | none => .misuse
    else .misuse
  | arg :: rest =>
    match arg.toList with
    | '-' :: 'h' :: _ => a.ask .help
    | '-' :: 'V' :: _ => a.ask .version
    | '-' :: '-' :: 'c' :: 'o' :: 'n' :: 'f' :: 'i' :: 'g' :: '=' :: path =>
      match a.file? (String.ofList path) with
      | some a => a.read rest
      | none => .misuse
    | '-' :: _ :: _ => .misuse
    | _ =>
      match a.word? arg with
      | some a => a.read rest
      | none => .misuse

end Arguments

/-- What the arguments ask for. -/
def request (args : List String) : Request := ({} : Arguments).read args

/-- The name of the program. -/
def programName : String := "market-fanout"

/-- The version of the program. -/
def programVersion : String := "0.1.0"

/-- The answer to a question for the version. -/
def versionText : String := programName ++ " " ++ programVersion ++ "\n"

/-- The answer to a question for help. -/
def helpText : String :=
  "Kline ingestion and WebSocket fan-out\n\nUsage: " ++ programName ++ " [OPTIONS] <ROLE>\n\n" ++
    "Arguments:\n  <ROLE>  Process role [possible values: worker, gateway, standalone]\n\n" ++
    "Options:\n      --config <CONFIG>  Config file, overrides CONFIG_PATH\n" ++
    "  -h, --help             Print help\n  -V, --version          Print version\n"

/-- What is said of arguments that make no sense. -/
def usageText : String := "Usage: " ++ programName ++ " [OPTIONS] <ROLE>\n"

/-- What the process leaves behind. -/
structure Output where
  code : UInt32
  stdout : String := ""
  stderr : String := ""
  deriving DecidableEq, Repr

/-- The causes of a failure, each on a line of its own; more than one are numbered. -/
def causeLines : List String → String
  | [] => ""
  | [cause] => "\n\nCaused by:\n    " ++ cause
  | causes =>
    "\n\nCaused by:" ++
      String.join (causes.mapIdx fun i cause => "\n    " ++ toString i ++ ": " ++ cause)

/-- A failure while running. -/
def failure (what : String) (causes : List String) : Output :=
  { code := 1, stderr := "Error: " ++ what ++ causeLines causes ++ "\n" }

/-- What lies behind a failure to load the settings. A failure to read is told twice. -/
def settingsCauses (e : Config.ConfigError) : List String :=
  match e with
  | .io reason => [e.message, reason]
  | e => [e.message]

/-- What the process finds around it. -/
structure Site where
  /-- The settings at a path, or at the usual place. -/
  settings : Option String → Config.Source
  makeDirectory : String → Except String Unit
  bind : String → Except String Unit
  /-- The bus of another process, by its address. -/
  reachBus : String → Except String Unit
  /-- A worker's run with these settings. -/
  work : Config → Except RelayError Feed.Exit
  /-- A gateway's run with these settings. -/
  serve : Config → Except RelayError Unit

/-- The run of a worker whose bus is there. It is to end on request only. -/
def runWorker (site : Site) (c : Config) : Output :=
  match site.work c with
  | .ok .cancelled => { code := 0 }
  | .ok .closed => failure "Upstream closed the stream" []
  | .error e => failure e.message e.causes

/-- The run of a gateway whose bus is there: the address has to be bound first. -/
def runGateway (site : Site) (c : Config) : Output :=
  match site.bind c.gateway.bindAddr with
  | .error reason => failure ("Failed to bind " ++ c.gateway.bindAddr) [reason]
  | .ok _ =>
    match site.serve c with
    | .ok _ => { code := 0 }
    | .error e => failure e.message e.causes

/-- The run of something that needs the bus: one elsewhere has to be reached first. -/
def withBus (site : Site) (c : Config) (run : Output) : Output :=
  match c.bus.backend with
  | .memory => run
  | .redis =>
    match site.reachBus c.bus.redisUrl with
    | .error reason => failure (BusError.redis reason).message [reason]
    | .ok _ => run

/-- The run of a role. Standalone ends with whichever half fails; the gateway's address is bound
while the worker still waits for the catalog. -/
def runRole (site : Site) (c : Config) : Role → Output
  | .worker => withBus site c (runWorker site c)
  | .gateway => withBus site c (runGateway site c)
  | .standalone =>
    let served := runGateway site c
    if served.code = 0 then runWorker site c else served

/-- Loads the settings, prepares the log, and runs the role. -/
def start (site : Site) (role : Role) (path : Option String) : Output :=
  match Config.load (site.settings path) with
  | .error e => failure "Failed to load configuration" (settingsCauses e)
  | .ok c =>
    match c.logging.directory with
    | none => runRole site c role
    | some dir =>
      match site.makeDirectory dir with
      | .error reason => failure "Failed to initialize logging" [reason]
      | .ok _ => runRole site c role

/-- The whole run of the program. -/
def run (site : Site) (args : List String) : Output :=
  match request args with
  | .help => { code := 0, stdout := helpText }
  | .version => { code := 0, stdout := versionText }
  | .misuse => { code := 2, stderr := usageText }
  | .start role path => start site role path

end CandleRelay.CommandLine
