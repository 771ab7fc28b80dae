import RadiusSentry.CommandLine
import Std.Async.DNS
import Std.Async.Timer
import Std.Async.UDP

/-!
# The program

The outer layer. It copies the files a command line needs into a tree, lets the
library do what the arguments ask for and puts the result back; then it carries
datagrams between sockets and the relay, one at a time. It decides nothing.
-/

set_option autoImplicit false

namespace RadiusSentry.Program

open Std.Async

/-! ## Files -/

/-- The tree with a directory, if the host has it. -/
def copyDirectory (t : FileTree) (path : Path) : IO FileTree := do
  if ← ((← IO.currentDir) / path).isDir then
    return (t.createDirectories path).toOption.getD t
  return t

/-- The tree with a file, or with a directory of its name, if the host has it. -/
def copyFile (t : FileTree) (path : Path) : IO FileTree := do
  let here := (← IO.currentDir) / path
  let t ← copyDirectory (← copyDirectory t (Path.parent path)) path
  if (← here.pathExists) && !(← here.isDir) then
    let contents ← IO.FS.readBinFile here
    return (t.write path contents.toList).toOption.getD t
  return t

/-- The tree with an empty file for every name in a directory of the host. -/
def copyNames (t : FileTree) (dir : Path) : IO FileTree := do
  let here := (← IO.currentDir) / dir
  if !(← here.isDir) then return t
  let t ← copyDirectory t dir
  return (← here.readDir).foldl
    (fun t e => (t.write (Path.join dir e.fileName) []).toOption.getD t) t

/-- A tree that holds the working directory alone. -/
def emptyTree : IO FileTree := do
  let here := (← IO.currentDir).toString
  let t : FileTree := { working := Path.names here }
  return (t.createDirectories here).toOption.getD t

/-- Writes the file at a path to the host if it differs between two trees. -/
def copyBack (before after : FileTree) (path : Path) : IO Unit := do
  match before.read path, after.read path with
  | .ok old, .ok new => if old ≠ new then IO.FS.writeBinFile path ⟨new.toArray⟩
  | .error _, .ok new => IO.FS.writeBinFile path ⟨new.toArray⟩
  | _, .error _ => return

/-- Adds an entry to its log. -/
def append (log : Audit.Log) (e : Audit.Entry) : IO Unit := do
  IO.FS.createDirAll log.dir
  let handle ← IO.FS.Handle.mk (log.pathFor e.day) .append
  handle.write ⟨(Audit.Log.lineOctets e).toArray⟩
  handle.flush

/-! ## Sockets -/

/-- The address of a socket. -/
def socketAddress (e : Endpoint) : Std.Net.SocketAddress :=
  match e.ip with
  | .v4 ip => .v4 ⟨⟨#v[ip.a, ip.b, ip.c, ip.d]⟩, e.port⟩
  | .v6 ip => .v6 ⟨⟨⟨ip.groups.toArray, by simp [ip.length_groups]⟩⟩, e.port⟩

/-- An address as the system gives it. -/
def ipAddress (a : Std.Net.IPAddr) : IpAddress :=
  match a with
  | .v4 a => .v4 ⟨a.octets[0], a.octets[1], a.octets[2], a.octets[3]⟩
  | .v6 a => .v6 ⟨a.segments.toList, by simp⟩

/-- The endpoint of a socket's address. -/
def endpoint (a : Std.Net.SocketAddress) : Endpoint :=
  match a with
  | .v4 a => { ip := ipAddress (.v4 a.addr), port := a.port }
  | .v6 a => { ip := ipAddress (.v6 a.addr), port := a.port }

/-- The name that has to be looked up for the configuration in a file, if it can be read. -/
def serverName? (t : FileTree) (path : Path) : Option String := do
  let text ← (t.readText path).toOption
  let c ← Config.ofText? text
  if (IpAddress.ofText? c.serverHost).isSome then none else some c.serverHost

/-- What the resolver of the host finds under a name. -/
def addressesOf (name : String) : IO (Except SystemError (List IpAddress)) := do
  try
    let addresses ← (DNS.getAddrInfo name "").block
    return .ok (addresses.toList.map ipAddress)
  catch e => return .error (.unresolved (toString e))

/-- The host, as far as the configuration in a file asks about it. Its sockets may have any
address; what it refuses shows when they are used. -/
def network (t : FileTree) (path? : Option Path) : IO Network := do
  let found ← match path?.bind (serverName? t) with
    | some name => addressesOf name
    | none => pure (.ok [])
  return {
    accepts := fun _ => true
    lookUp := fun _ port => found.map fun ips => ips.map fun ip => { ip, port } }

/-- A socket towards the server. -/
structure Channel where
  number : Nat
  client : Endpoint
  socket : UDP.Socket
  lastUsed : Nat

/-- A relay that is running. -/
structure Live where
  state : Relay.State Plugin.World
  channels : List Channel := []

/-- What the relay waits for. -/
inductive Arrival
  | fromClient (client : Endpoint) (datagram : Octets)
  | fromServer (u : Channel) (datagram : Octets)
  | nothing

/-- Shows events that are urgent enough. -/
def report (c : Config) (events : List Event) : IO Unit := do
  for e in events do
    let line := e.line
    if c.shows line.level then
      IO.println (" ".intercalate
        (line.level.name :: line.message :: line.fields.map fun (k, v) => k ++ "=" ++ v))
  (← IO.getStdout).flush

/-- Reports events and adds records to logs. -/
def settle (c : Config) (actions : List Action) : IO Unit := do
  for a in actions do
    match a with
    | .logged e => report c [e]
    | .queued w =>
      let now := (← Std.Time.Timestamp.now).toSecondsSinceUnixEpoch.val
      try append w.log (w.record.stamped ⟨now, false⟩)
      catch e => report c [.jobFailed (PluginError.failedWrite (toString e)).message]
    | _ => pure ()

/-- The socket of a number, opened if it is not there yet. -/
def channelOf (place : Relay.Place) (live : Live) (number : Nat) (client : Endpoint) :
    IO Channel := do
  match live.channels.find? fun u => u.number == number with
  | some u => return { u with lastUsed := ← IO.monoMsNow }
  | none =>
    let socket ← UDP.Socket.mk
    socket.connect (socketAddress place.server)
    return { number, client, socket, lastUsed := ← IO.monoMsNow }

/-- Sends what a turn sends, and gives the sockets after it. -/
def deliver (place : Relay.Place) (listener : UDP.Socket) (live : Live)
    (deliveries : List Relay.Delivery) : IO Live :=
  deliveries.foldlM (fun live d => do
    match d with
    | .toClient client datagram =>
      (listener.send ⟨datagram.toArray⟩ (some (socketAddress client))).block
      return live
    | .toServer number client datagram =>
      let u ← channelOf place live number client
      (u.socket.send ⟨datagram.toArray⟩).block
      return { live with
        channels := u :: live.channels.filter fun v => v.number != number }) live

/-- Takes a step of the relay and does what it says. A turn that cannot be carried out
is taken again as one whose datagrams cannot be sent. -/
def turn (ready : CommandLine.Ready) (listener : UDP.Socket) (live : Live)
    (step : Relay.Link → Relay.Step) : IO Live := do
  let c := ready.config
  let files ← copyNames (← emptyTree) (Path.join c.dir "users")
  let state := { live.state with shared := { live.state.shared with files } }
  let t := ready.relay.handle state (step {})
  settle c t.actions
  try
    let after ← deliver ready.place listener live t.deliveries
    return { after with state := t.state }
  catch _ =>
    let unsent : Relay.Link :=
      { openFault := some .networkUnreachable, sendFault := some .networkUnreachable }
    return { live with state := (ready.relay.handle state (step unsent)).state }

/-- Waits for a datagram, but not longer than a session lasts. -/
def wait (listener : UDP.Socket) (live : Live) (milliseconds : Nat) : IO Arrival :=
  let size := UInt64.ofNat Packet.maxLength
  Async.block do
    let sleep ← Selector.sleep (.ofNat milliseconds)
    Selectable.one <|
      #[.case (listener.recvSelector size) fun (data, source) =>
          pure (match source with
            | some a => Arrival.fromClient (endpoint a) data.toList
            | none => .nothing),
        .case sleep fun _ => pure .nothing]
      ++ (live.channels.map fun u =>
          .case (u.socket.recvSelector size) fun (data, _) =>
            pure (Arrival.fromServer u data.toList)).toArray

/-- Closes the sessions that were not used for too long. -/
def expire (live : Live) (now milliseconds : Nat) : Live :=
  let (old, kept) := live.channels.partition fun u => u.lastUsed + milliseconds ≤ now
  { state := old.foldl (fun s u => (s.closeSession u.client u.number true).1) live.state
    channels := kept }

/-- Relays for ever. -/
partial def relay (ready : CommandLine.Ready) (listener : UDP.Socket) (live : Live) : IO Unit := do
  let milliseconds := ready.config.sessionTimeout.toNat * 1000
  let live := expire live (← IO.monoMsNow) milliseconds
  let live ← match ← wait listener live (min milliseconds 60000) with
    | .fromClient client datagram =>
      turn ready listener live fun link => .fromClient client datagram link
    | .fromServer u datagram =>
      let now ← IO.monoMsNow
      let used := live.channels.map fun v =>
        if v.number = u.number then { v with lastUsed := now } else v
      turn ready listener { live with channels := used } fun _ =>
        .fromServer u.client datagram
    | .nothing => pure live
  relay ready listener live

/-- Begins to relay. -/
def serve (ready : CommandLine.Ready) (files : FileTree) : IO UInt32 := do
  report ready.config ready.events
  try
    let listener ← UDP.Socket.mk
    listener.bind (socketAddress ready.place.listen)
    IO.println ("Relaying from " ++ ready.place.listen.toText ++ " to "
      ++ ready.place.server.toText)
    (← IO.getStdout).flush
    relay ready listener { state := { shared := .initial ready.config files } }
    return 0
  catch e =>
    IO.eprintln ("Relay failed: " ++ toString e)
    return 1

/-! ## Arguments -/

/-- The tree with the files that a configuration in it names. -/
def copySecrets (t : FileTree) (n : Network) (path : Path) : IO FileTree := do
  match Config.load n.lookUp t path with
  | .error _ => return t
  | .ok c =>
    copyFile (← copyFile t (Path.join c.dir Secrets.secretsFile))
      (Path.join c.dir Secrets.clientsFile)

/-- Does what arguments ask for. -/
def run (arguments : List String) : IO UInt32 := do
  let asked := CommandLine.invocation arguments
  let named ← match asked.config? with
    | some path => copyFile (← emptyTree) path
    | none => emptyTree
  let n ← network named asked.config?
  let before ← match asked.config? with
    | some path => copySecrets named n path
    | none => pure named
  let (after, outcome) := CommandLine.perform before n asked
  match asked.config? with
  | some path => copyBack before after path
  | none => pure ()
  match outcome with
  | .exit status output complaint =>
    output.forM IO.println
    complaint.forM IO.eprintln
    return status
  | .serve ready => serve ready after

end RadiusSentry.Program

/-- Does what the arguments ask for. -/
def main (arguments : List String) : IO UInt32 :=
  RadiusSentry.Program.run arguments
