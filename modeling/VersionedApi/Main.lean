import VersionedApi.CommandLine.Run
import VersionedApi.Session.Wire
import Std.Async.TCP
import Std.Async.DNS

/-!
# The program

The outer layer of the command line: it reads the environment and files, exchanges messages with
servers and prints.  What the program does is `CommandLine.run`, a function of what servers answer.
It is therefore run again with every answer that comes in: as long as it sends a request that is
not answered yet, that request goes to its server.
-/

namespace VersionedApi

/-- The environment variables that the program knows. -/
def knownVariables : List String := [
  "RESTAPI_TOKEN", "RESTAPI_USER_AGENT", "RESTAPI_REDIRECT", "RESTAPI_CACERT", "RESTAPI_INSECURE",
  "RESTAPI_TIMEOUT", "RESTAPI_STRICT", "RESTAPI_WORKAROUND_URL_BUG"]

/-- The environment of the process. -/
def readEnvironment : IO Environment := do
  let known ← knownVariables.filterMapM fun name => do
    return (← IO.getEnv name).map fun value => (name, Utf8.encode value)
  return fun name => known.lookup name

/-- The octets of a file. -/
def readFile (path : String) : IO (Except String Bytes) := do
  try
    return .ok (← IO.FS.readBinFile path).toList
  catch _ =>
    return .error missingFile

/-- The settings at the default place. -/
def readDefault : IO (Option Bytes) := do
  let dir := match ← IO.getEnv "XDG_CONFIG_HOME", ← IO.getEnv "HOME" with
    | some dir, _ => some dir
    | none, some home => some (home ++ "/.config")
    | none, none => none
  match dir with
  | some dir => return (← readFile (dir ++ "/restapi/config.toml")).toOption
  | none => return none

/-- The files that the arguments and the settings name. -/
def readFiles (host : CommandLine.Host) (args : List String) : IO Files := do
  match CommandLine.Arguments.parse host.token args with
  | .error _ => return host.files
  | .ok a =>
      let known ← a.globals.config.toList.mapM fun path => do return (path, ← readFile path)
      let files : Files := fun path => (known.lookup path).getD (.error missingFile)
      match CommandLine.settings { host with files } a.globals with
      | .ok { session := { verify := .bundle path, .. }, .. } => do
          let more := (path, ← readFile path) :: known
          return fun path => (more.lookup path).getD (.error missingFile)
      | _ => return files

/-- What comes in on a connection until it ends. -/
partial def receiveAll (socket : Std.Async.TCP.Socket.Client) (soFar : ByteArray) :
    IO ByteArray := do
  match ← (socket.recv? 65536).block with
  | some more => receiveAll socket (soFar ++ more)
  | none => return soFar

/-- The address of a server. -/
def addressOf (host : String) (port : UInt16) : IO (Option Std.Net.SocketAddress) := do
  let plain := String.ofList (host.toList.filter fun c => c ≠ '[' && c ≠ ']')
  let service := String.ofList (Text.decimal port.toNat)
  let found : Array Std.Net.IPAddr ← (Std.Async.DNS.getAddrInfo plain service).block
  match found.toList with
  | .v4 addr :: _ => return some (.v4 ⟨addr, port⟩)
  | .v6 addr :: _ => return some (.v6 ⟨addr, port⟩)
  | [] => return none

/-- One exchange with a server on a plain connection.  The program has no handshake for an encrypted
one. -/
def exchange (d : Dispatch) : IO Delivery := do
  if d.url.scheme = "https" then return .unreachable
  let port := d.url.effectivePort?.getD 80
  let socket ← Std.Async.TCP.Socket.Client.mk
  try
    match ← addressOf ((d.url.host?.map Url.Host.render).getD "") port with
    | some address => (socket.connect address).block
    | none => return .unreachable
  catch _ => return .unreachable
  try
    (socket.send (ByteArray.mk (Wire.ofDispatch d).toArray)).block
    return Wire.toDelivery (← receiveAll socket .empty).toList
  catch _ => return .hangUp

/-- The program's report, with what servers answered so far. -/
partial def report (host : CommandLine.Host) (args : List String) (answers : List Delivery) :
    IO CommandLine.Report := do
  let host := { host with answer := fun sent => answers[sent.length - 1]?.getD .hangUp }
  let t := CommandLine.run host (answers.length + 1) args
  match (host.network.dispatched t.sent)[answers.length]?, t.outcome with
  | some d, _ => report host args (answers ++ [← exchange d])
  | none, some (.ok r) => return { r with stderr := CommandLine.logText args t.events ++ r.stderr }
  | none, _ => return { exit := 1 }

end VersionedApi

/-- The command line. -/
def main (args : List String) : IO UInt32 := do
  let bare : VersionedApi.CommandLine.Host :=
    { env := ← VersionedApi.readEnvironment
      defaultConfig := ← VersionedApi.readDefault
      files := fun _ => .error VersionedApi.missingFile
      answer := fun _ => .unreachable }
  let host := { bare with files := ← VersionedApi.readFiles bare args }
  let r ← VersionedApi.report host args []
  IO.print r.stdout
  IO.eprint r.stderr
  return UInt32.ofNat r.exit
