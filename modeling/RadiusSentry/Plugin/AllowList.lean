import RadiusSentry.Plugin.World
import RadiusSentry.Text.Lowercase

/-!
# The allow list

Admits a request when the directory of users has a file named after its user and
its station, both cleaned, with a dot between them. Every decision on a request
that names both is reported.
-/

set_option autoImplicit false

namespace RadiusSentry.Plugin

def AllowList.name : String := "usermac"

def AllowList.isKept (c : Char) : Bool :=
  ('a' ≤ c && c ≤ 'z') || ('0' ≤ c && c ≤ '9') || c == '.'

/-- A text in lower case with ASCII letters, digits and dots alone. -/
def AllowList.clean (text : String) : String :=
  String.ofList ((Text.lowercase text.toList).filter isKept)

/-- The settings of an allow list. -/
structure AllowList where
  /-- the directory of users -/
  users : Path
  /-- whether decisions are remembered until the next reload -/
  caching : Bool
  /-- where decisions are reported -/
  log : Audit.Log
deriving DecidableEq, Repr

namespace AllowList

/-- The name of the file that admits a cleaned user at a cleaned station. -/
def key (user station : String) : String :=
  user ++ "." ++ station

/-- The decision remembered for a key. -/
def remembered? (cache : Cache) (key : String) : Option Bool :=
  (cache.find? fun entry => entry.1 == key).map Prod.snd

/-- The decision for a key, and what is remembered after it. -/
def lookup (l : AllowList) (files : FileTree) (cache : Cache) (key : String) : Answer Cache :=
  match (if l.caching then remembered? cache key else none) with
  | some good => { verdict := good, state := cache, effects := [.logged (.remembered key)] }
  | none =>
    let good := files.pathExists (Path.join l.users key)
    { verdict := good, state := if l.caching then (key, good) :: cache else cache }

def serverName (p : Packet) : String :=
  match (p.text? .nasIdentifier).map clean with
  | none | some "" => "unknown"
  | some name => name

def serverAddress (p : Packet) : String :=
  match (p.find? Attribute.Kind.nasIpAddress.number).bind fun a => a.ipv4.toOption with
  | some ip => ip.toText
  | none => "noip"

def serverPort (p : Packet) : Nat :=
  ((p.integer? .nasPort).getD 0).toNat

def record (good : Bool) (user station : String) (p : Packet) (r : Request) : Audit.Record where
  plugin := name
  event := if good then "passed" else "failed"
  fields := .ofList [
    ("user", user), ("mac", station), ("nas", serverName p), ("nas_ip", serverAddress p),
    ("nas_port", toString (serverPort p)), ("id", toString p.identifier.toNat),
    ("client", r.hostText)]

/-- The decision on a request. One that does not name its user and its station in
texts is refused without a report. -/
def decide (l : AllowList) (r : Request) (files : FileTree) (cache : Cache) : Answer Cache :=
  match r.packet? with
  | none => { verdict := false, state := cache }
  | some p =>
    match p.text? .userName, p.text? .callingStationId with
    | some user, some station =>
      let user := clean user
      let station := clean station
      let found := l.lookup files cache (key user station)
      { found with
        effects := found.effects ++
          [.queued { log := l.log, record := record found.verdict user station p r }] }
    | _, _ =>
      { verdict := false, state := cache, effects := [.logged (.identityMissing r.source)] }

/-- The allow list at a place among the plugins. -/
def toModule (l : AllowList) (place : Nat) : Module World where
  name := name
  handler?
    | .preAuth => some fun _ r w =>
      let answer := l.decide r w.files (w.cache place)
      { verdict := answer.verdict, state := w.withCache place answer.state
        effects := answer.effects }
    | _ => none
  reload w := w.withCache place []

end AllowList

end RadiusSentry.Plugin
