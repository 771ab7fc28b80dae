import RadiusSentry.Secrets.Store
import RadiusSentry.Storage.FileTree
import RadiusSentry.Text.Lines
import RadiusSentry.Text.Quoted

/-!
# Files of shared secrets

Each line gives a key, a space and a secret. Lines that begin with a number sign,
have no space, or lack a key or a secret are passed over. The file `secrets` holds
the default secret under a key that begins with the loopback address; the file
`clients`, which may be missing, holds the mapping.
-/

set_option autoImplicit false

namespace RadiusSentry.Secrets

/-- What the key of the default secret begins with. -/
def localKey : String := "127.0.0.1"

def secretsFile : String := "secrets"

def clientsFile : String := "clients"

/-- Key and secret of a line. -/
def parseLine? (line : List Char) : Option (String × Octets) :=
  if line.head? = some '#' then none
  else do
    let (key, rest) ← Text.splitOnce? ' ' line
    let secret := Text.trim rest
    if key = [] ∨ secret = [] then none
    else some (String.ofList key, Octets.ofText (String.ofList secret))

/-- Keys and secrets of all lines that give them, in order. -/
def entries (text : String) : List (String × Octets) :=
  (Text.lines text.toList).filterMap parseLine?

def parseSecrets (text : String) : Except SecretFault Octets :=
  match (entries text).find? fun entry => Store.applies entry.1 localKey with
  | some (_, secret) => .ok secret
  | none => .error .noSecretConfigured

def parseClients (text : String) : Mapping :=
  Mapping.ofList (entries text)

/-- Why a store cannot be loaded. -/
inductive LoadError
  | fault (fault : SecretFault)
  | unreadable (path : Path) (cause : SystemError)
deriving DecidableEq, Repr

def LoadError.message : LoadError → String
  | .fault f => f.message
  | .unreadable path cause => "unable to read " ++ path ++ ": " ++ cause.message

def readFile (t : FileTree) (path : Path) : Except LoadError String :=
  (t.readText path).mapError (.unreadable path)

def load (t : FileTree) (dir : Path) : Except LoadError Store := do
  let text ← readFile t (Path.join dir secretsFile)
  let default ← (parseSecrets text).mapError .fault
  let clients := Path.join dir clientsFile
  if t.pathExists clients then
    let mappings ← readFile t clients
    .ok { default := some default, mapping := parseClients mappings }
  else .ok { default := some default }

/-- What a store shows of itself: its keys, never its secrets. -/
def Store.summary (s : Store) : String :=
  "SecretStore \x7b has_default: " ++ toString s.default.isSome ++ ", prefixes: "
    ++ Text.quotedList s.keys ++ " \x7d"

end RadiusSentry.Secrets
