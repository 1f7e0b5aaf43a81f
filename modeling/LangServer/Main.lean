import LangServer.Cli.Run
import LangServer.Json.Writer

/-!
# The program

Serves one client on the standard input and output.  This program brings no checker along, so the
client is told that none is installed.
-/

namespace LangServer.Main

/-- The next octets of a stream, up to `count` of them. -/
partial def readOctets (stream : IO.FS.Stream) (count : Nat) (taken : List Nat := []) :
    IO (List Nat) := do
  if count = 0 then return taken
  let bytes ← stream.read count.toUSize
  if bytes.isEmpty then return taken
  readOctets stream (count - bytes.size) (taken ++ bytes.toList.map UInt8.toNat)

/-- The next line of a stream, with its end. -/
partial def readLine (stream : IO.FS.Stream) (taken : List Nat := []) : IO (List Nat) := do
  match ← readOctets stream 1 with
  | octet :: _ =>
    let taken := taken ++ [octet]
    if octet = Rpc.Frame.newline then return taken else readLine stream taken
  | [] => return taken

/-- All that is left of a stream. -/
partial def readAll (stream : IO.FS.Stream) (taken : List Nat := []) : IO (List Nat) := do
  let octets ← readOctets stream 4096
  if octets.isEmpty then return taken else readAll stream (taken ++ octets)

/-- The header lines of a frame, after those taken; none where the stream ends within them. -/
partial def readHeaders (stream : IO.FS.Stream) (taken : List Nat) : IO (Option (List Nat)) := do
  if (Rpc.Frame.afterBlank .start taken).isSome then return some taken
  let line ← readLine stream
  if line.isEmpty then return none else readHeaders stream (taken ++ line)

/-- The next frame of a stream. -/
def readFrame (stream : IO.FS.Stream) : IO Rpc.Frame := do
  let first ← readLine stream
  if first.isEmpty then return .finished
  match Rpc.Frame.contentLength (Rpc.Frame.firstLine first) with
  | .error () => return .unreadable []
  | .ok length =>
    match ← readHeaders stream first with
    | none => return .finished
    | some headers =>
      let body ← match length with
        | some n => if n < 0 then readAll stream else readOctets stream n.toNat
        | none => readAll stream
      return Rpc.Frame.read (headers ++ body)

/-- Writes what the server has sent. -/
def writeSent (stream : IO.FS.Stream) (server : Server) : IO Server := do
  for message in server.written do
    let octets := Rpc.Frame.write (Json.write message.toJson).toList
    stream.write (ByteArray.mk (octets.map UInt8.ofNat).toArray)
  stream.flush
  return { server with session := { server.session with sent := [] } }

/-- Takes in a body and writes what the server sends. -/
def take (env : Environment) (output : IO.FS.Stream) (server : Server) (body : List Nat) :
    IO Server := do
  let (r, server) := (Server.deliver env body).run server
  let server ← writeSent output server
  match r with
  | .ok () => return server
  | .error f => throw (IO.userError f.summary)

/-- Serves a client until the channel ends. -/
partial def serve (env : Environment) (input output : IO.FS.Stream) (server : Server)
    (last : Option (List Nat) := none) : IO Unit := do
  if server.session.closed then return
  match ← readFrame input with
  | .finished => return
  | .tooLarge => throw (IO.userError Fault.tooLarge.summary)
  | .message body _ => serve env input output (← take env output server body) (some body)
  | .unreadable _ =>
    match last with
    | none => throw (IO.userError Fault.unset.summary)
    | some body => serve env input output (← take env output server body) last

/-- A machine that holds the configuration file of the log, if one is named. -/
def machineFor (o : Cli.Options) : IO Machine := do
  match o.logConfig with
  | none => return {}
  | some path =>
    if path.isEmpty then return {}
    let bytes ← IO.FS.readBinFile path
    return { files := { files := [(Path.names path.toList, bytes.toList.map UInt8.toNat)] } }

end LangServer.Main

open LangServer in
def main (arguments : List String) : IO UInt32 := do
  match Cli.parse arguments with
  | .error stop =>
    IO.print stop.exit.output
    IO.eprint stop.exit.errors
    return stop.exit.code.toUInt32
  | .ok o =>
    let machine ← Main.machineFor o
    match Cli.setUpLogging machine o with
    | (.error f, _) =>
      IO.eprintln f.summary
      return 1
    | (.ok (), _) =>
      if o.tcp then
        IO.eprintln "This program serves the standard input only."
        return 1
      Main.serve (Cli.environment { machine } o) (← IO.getStdin) (← IO.getStdout) {}
      return 0
