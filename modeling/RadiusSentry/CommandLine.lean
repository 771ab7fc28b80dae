import RadiusSentry.Plugin.Setup
import RadiusSentry.Relay.Setup

/-!
# The command line

What the arguments ask for, and what is done about it before the first datagram:
a configuration is reported on, a sample of one is written, or a relay is made
ready. Arguments are looked at from left to right, and the first that asks for help
or makes no sense decides.
-/

set_option autoImplicit false

namespace RadiusSentry

/-- The least urgent events that are shown, by rank. -/
def Config.leastRank (c : Config) : Nat :=
  match c.logLevel.bind fun level =>
      Config.logLevels.findIdx? fun l => l.toList == Text.lowercase level.toList with
  | some rank => rank
  | none => if c.debug then 1 else 2

def Config.shows (c : Config) (level : Event.Level) : Bool :=
  c.leastRank ≤ level.rank

namespace CommandLine

/-- An option without a value. -/
inductive Flag
  | validate
  | help
  | version
deriving DecidableEq, Repr

def Flag.ofLetter? : Char → Option Flag
  | 'v' => some .validate
  | 'h' => some .help
  | 'V' => some .version
  | _ => none

def Flag.ofArgument? : String → Option Flag
  | "--validate" => some .validate
  | "--help" => some .help
  | "--version" => some .version
  | _ => none

/-- A part of the command line with a meaning of its own. -/
inductive Word
  | operand (text : String)
  /-- an option; `none` for one there is not -/
  | flag (flag? : Option Flag)
deriving DecidableEq, Repr

/-- The words of the arguments. Letters may share a hyphen, a lone hyphen is an operand,
and after two hyphens everything is. -/
def words : List String → List Word
  | [] => []
  | argument :: rest =>
    if argument = "--" then rest.map .operand
    else
      match argument.toList with
      | '-' :: '-' :: _ => .flag (Flag.ofArgument? argument) :: words rest
      | '-' :: letter :: letters =>
        (letter :: letters).map (fun c => .flag (Flag.ofLetter? c)) ++ words rest
      | _ => .operand argument :: words rest

/-- What the arguments ask for. -/
inductive Invocation
  | help
  | version
  /-- arguments that make no sense -/
  | misuse
  /-- reports on a configuration -/
  | validate (config : Path)
  /-- relays as a configuration says -/
  | serve (config : Path)
deriving DecidableEq, Repr

def Invocation.config? : Invocation → Option Path
  | .validate path | .serve path => some path
  | _ => none

def defaultConfig : Path := "config.json"

/-- What words ask for, after a configuration and the option to validate may have been
given; neither may be given twice. -/
def interpret (config? : Option Path) (validating : Bool) : List Word → Invocation
  | [] =>
    let config := config?.getD defaultConfig
    if validating then .validate config else .serve config
  | .operand text :: rest =>
    if config?.isSome then .misuse else interpret (some text) validating rest
  | .flag (some .validate) :: rest =>
    if validating then .misuse else interpret config? true rest
  | .flag (some .help) :: _ => .help
  | .flag (some .version) :: _ => .version
  | .flag none :: _ => .misuse

def invocation (arguments : List String) : Invocation :=
  interpret none false (words arguments)

/-- A relay that is ready to begin. -/
structure Ready where
  config : Config
  relay : Relay Plugin.World
  place : Relay.Place
  events : List Event

/-- What a command line leads to. -/
inductive Outcome
  /-- the end, with a status, what is said about the result and what about failures -/
  | exit (status : UInt32) (output complaint : List String)
  | serve (ready : Ready)

def usage : List String :=
  ["Usage: radius_gate [OPTIONS] [CONFIG]"]

def helpLines : List String :=
  ["RADIUS pre/post-authorization proxy with pluggable authorization, accounting and "
      ++ "tracing modules", ""] ++ usage ++
  ["", "Arguments:",
    "  [CONFIG]  Path to configuration file [default: " ++ defaultConfig ++ "]", "",
    "Options:",
    "  -v, --validate  Validate configuration and exit (doesn't start the proxy)",
    "  -h, --help      Print help",
    "  -V, --version   Print version"]

def versionLines : List String :=
  ["radius_gate 0.1.0"]

def serverText (c : Config) : String :=
  match c.forwardPort? with
  | some port => c.serverHost ++ ":" ++ toString port.toNat
  | none => c.serverHost ++ " (no port)"

def report (c : Config) : List String :=
  ["Configuration validated successfully",
    "  Mode: " ++ (if c.accounting then "accounting" else "authentication"),
    "  Listen: " ++ c.listenAddress ++ ":" ++ toString c.bindPort.toNat,
    "  Upstream: " ++ serverText c,
    "  Session timeout: " ++ toString c.sessionTimeout.toNat ++ "s",
    "  Data dir: " ++ c.dir,
    "  Plugins: " ++ ", ".intercalate c.plugins,
    "  Reject: " ++ (if c.noReject then "never" else "on failure")]

def validate (t : FileTree) (n : Network) (path : Path) : Outcome :=
  match Config.load n.lookUp t path with
  | .ok c => .exit 0 (report c) []
  | .error e => .exit 1 [] ["Configuration validation failed: " ++ e.message]

def prepare (c : Config) (t : FileTree) (n : Network) : Outcome :=
  match Gate.ofConfig c t with
  | .error e => .exit 1 [] ["Unable to build gate: " ++ e.message]
  | .ok (gate, events) =>
    match Relay.Place.ofConfig c n with
    | .error e => .exit 1 [] ["Unable to set up relay: " ++ e.message]
    | .ok place =>
      .serve { config := c, relay := Relay.ofConfig c gate, place
               events := events ++ gate.selfReport }

/-- Writes the sample configuration where none could be loaded. -/
def writeSample (t : FileTree) (path : Path) (cause : ConfigError) : FileTree × Outcome :=
  let found := "Could not load " ++ path ++ ": " ++ cause.message
  match Config.sample.save t path with
  | .ok written =>
    (written, .exit 0 [] [found, "Wrote a sample to " ++ path ++ "; edit it and start again"])
  | .error e => (t, .exit 1 [] [found, "Could not write a sample: " ++ e.message])

/-- Makes a relay ready, or leaves a sample configuration behind. -/
def serve (t : FileTree) (n : Network) (path : Path) : FileTree × Outcome :=
  match Config.load n.lookUp t path with
  | .error e => writeSample t path e
  | .ok c => (t, prepare c t n)

/-- Does what arguments ask for, and gives the files after it. -/
def perform (t : FileTree) (n : Network) : Invocation → FileTree × Outcome
  | .help => (t, .exit 0 helpLines [])
  | .version => (t, .exit 0 versionLines [])
  | .misuse => (t, .exit 2 [] usage)
  | .validate path => (t, validate t n path)
  | .serve path => serve t n path

end CommandLine

end RadiusSentry
