import LiveRoom.Console
import Std.Async.DNS
import Std.Async.TCP
import Std.Time

/-!
# The program

Here the program meets the real terminal, files and network.  What it does is decided
elsewhere: a turn of the menu is a dialogue and a delivery is traffic, and both are
carried out with the actions of this module.

Only connections without encryption are made.
-/

namespace LiveRoom.Main

/-! ## Environment and files -/

/-- The environment, as far as it is looked at. -/
def readEnvironment : IO Environment :=
  Console.variableNames.filterMapM fun name => do
    return (← IO.getEnv name).map fun value => (name, Utf8.encode value.toList)

/-- The number by which the system knows an error. -/
def systemCode : IO.Error → Option UInt32
  | .alreadyExists _ code _ | .otherError code _ | .resourceBusy code _
  | .resourceVanished code _ | .unsupportedOperation code _ | .hardwareFault code _
  | .unsatisfiedConstraints code _ | .illegalOperation code _ | .protocolError code _
  | .timeExpired code _ | .interrupted _ code _ | .noFileOrDirectory _ code _
  | .invalidArgument _ code _ | .permissionDenied _ code _ | .resourceExhausted _ code _
  | .inappropriateType _ code _ | .noSuchThing _ code _ =>
    -- Some parts of the system report the number with its sign turned.
    some (if code < 0x80000000 then code else 0 - code)
  | .unexpectedEof | .userError _ => none

/-- A failure to read a file. -/
def fileError (error : IO.Error) : FileError :=
  match systemCode error with
  | some 2 => .notFound
  | some 20 => .notDirectory
  | some 21 => .isDirectory
  | some 36 => .nameTooLong
  | _ => .other (toString error)

def readFile (path : Path) : IO (Except FileError (List UInt8)) := do
  if path.contains 0 then return .error .nulInName
  try
    let content ← IO.FS.readBinFile (Path.display path)
    return .ok content.toList
  catch error => return .error (fileError error)

/-- The files, as far as loading the configuration looks at them. -/
def readFiles (environment : Environment) (home : Path) : IO Files := do
  let directory := environment.configDirectory home
  match Config.consulted environment.text? (some directory) with
  | none => return ⟨fun _ => false, fun _ => .error .notFound⟩
  | some path =>
    let content ← readFile path
    let isThere := match content with
      | .error .notFound | .error .notDirectory | .error .nameTooLong => false
      | _ => true
    return ⟨fun _ => isThere, fun _ => content⟩

/-! ## The terminal -/

def putText (text : String) : IO Unit := do
  let stdout ← IO.getStdout
  stdout.putStr text
  stdout.flush

/-- The bytes of the next line, with the line feed that ends it. -/
partial def nextLine (stdin : IO.FS.Stream) (line : ByteArray) : IO ByteArray := do
  let read ← stdin.read 1
  if read.isEmpty then return line
  let line := line ++ read
  if read.toList = [0x0A] then return line else nextLine stdin line

def ask (prompt : String) : IO Input := do
  putText (Terminal.promptText prompt)
  let line ← nextLine (← IO.getStdin) .empty
  return Terminal.readingOf line.toList

/-- The time in the log. -/
def timeNow : IO String := do
  let now ← Std.Time.Timestamp.now
  return (Std.Time.DateTime.ofTimestamp now .UTC).format "uuuu-MM-dd'T'HH:mm:ss.SSSSSS'Z'"

def note (settings : LogSettings) (entry : Log.Entry) : IO Unit := do
  IO.eprint (settings.write (← timeNow) entry)

/-! ## The network -/

/-- The addresses of a host. -/
def addresses (host : Host) : IO (List Std.Net.IPAddr) := do
  match host with
  | .ipv4 address =>
    let byte (shift : Nat) : UInt8 := UInt8.ofNat (address / Nat.pow 256 shift)
    return [.v4 (.ofParts (byte 3) (byte 2) (byte 1) (byte 0))]
  | .ipv6 pieces => return [.v6 ⟨Vector.ofFn fun i => UInt16.ofNat (pieces.getD i 0)⟩]
  | .name name =>
    let found ← (Std.Async.DNS.getAddrInfo (String.ofList name) "").block
    return found.toList

/-- An address with a port. -/
def socketAddress (port : UInt16) : Std.Net.IPAddr → Std.Net.SocketAddress
  | .v4 address => .v4 ⟨address, port⟩
  | .v6 address => .v6 ⟨address, port⟩

def connectError (error : IO.Error) : Http.ConnectError :=
  match systemCode error with
  | some 101 => .unreachable
  | some 111 => .refused
  | _ => .other (toString error)

/-- All bytes that still come over a connection. -/
partial def receiveAll (client : Std.Async.TCP.Socket.Client) (bytes : ByteArray) :
    IO ByteArray := do
  match ← (client.recv? 65536).block with
  | some more => receiveAll client (bytes ++ more)
  | none => return bytes

/-- Sends a request and reads what comes back. -/
def converse (client : Std.Async.TCP.Socket.Client) (request : List UInt8) :
    IO Http.Connection := do
  try
    (client.send ⟨request.toArray⟩).block
    return .answered (← receiveAll client .empty).toList
  catch _ => return .answered []

/-- Makes a request over a connection of its own, which may go to a proxy.  The request names
the endpoint that it is for either way. -/
def exchange (proxies : Http.Proxies) (endpoint : Http.Endpoint) (request : Http.Request) :
    IO Http.Connection := do
  let (next, sent) := proxies.route endpoint request
  if next.secure then return .failed (.other "encrypted connections are not supported")
  let found ← try addresses next.host catch _ => pure []
  let mut failure := Http.ConnectError.unknownName
  for address in found do
    try
      let client ← Std.Async.TCP.Socket.Client.mk
      (client.connect (socketAddress (UInt16.ofNat next.port) address)).block
      return ← converse client (sent.bytes endpoint)
    catch error => failure := connectError error
  return .failed failure

/-! ## The session -/

/-- The library that messages are sent with. -/
def library : Http.Library := .standard

/-- The actions of a session. -/
def actor (settings : LogSettings) (proxies : Http.Proxies) (client : Client) : Actor IO where
  print := putText
  note := note settings
  ask := ask
  post path body := (client.delivery library path body).perform (exchange proxies)

/-- Shows the menu until the session ends. -/
partial def serve (actor : Actor IO) (config : Config) : IO Ending := do
  match ← (Menu.turn config).perform actor with
  | some ending => return ending
  | none => serve actor config

def run : IO UInt32 := do
  let environment ← readEnvironment
  let home := Path.ofString "/"
  let files ← readFiles environment home
  match Config.ofEnvironment environment home files with
  | .error error =>
    IO.eprint (Console.failureText error.chain)
    return 1
  | .ok config =>
    let settings := LogSettings.ofEnvironment environment
    note settings (Console.loadedEntry config)
    let proxies := library.proxiesIn environment
    match ← serve (actor settings proxies (Console.clientOf config)) config with
    | .finished => return 0
    | .failed reason =>
      IO.eprint (Console.failureText [reason])
      return 1

end LiveRoom.Main

/-- The entry point. -/
def main : IO UInt32 := LiveRoom.Main.run
