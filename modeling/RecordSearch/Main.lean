import RecordSearch.CommandLine
import RecordSearch.Service.Wire
import RecordSearch.Startup
import Std.Async.Signal
import Std.Async.TCP

/-!
# The program

The outermost layer: arguments, files, sockets and exit codes. What they mean is decided elsewhere.
-/

namespace RecordSearch

open Std.Async

/-- The fault that an error of the file system stands for. -/
def fileFaultOf (error : IO.Error) : FileFault :=
  match error with
  | .noFileOrDirectory .. => .notFound
  | .inappropriateType _ 20 _ => .notADirectory
  | .inappropriateType _ 21 _ => .isADirectory
  | .invalidArgument .. => .nulInName
  | other => .other (toString other)

/-- What stands at a path on disk. -/
def entryOnDisk (path : String) : IO (Except FileFault FileEntry) := do
  try
    return .ok (.file (← IO.FS.readBinFile path).toList)
  catch error =>
    match fileFaultOf error with
    | .isADirectory => return .ok .directory
    | fault => return .error fault

/-- The address of an endpoint for a socket. -/
def socketAddress (endpoint : Endpoint) : Std.Net.SocketAddress :=
  match endpoint.address with
  | .v4 first second third fourth =>
    .v4 ⟨⟨#v[first, second, third, fourth]⟩, endpoint.port⟩
  | .v6 groups eight => .v6 ⟨⟨⟨groups.toArray, by simpa using eight⟩⟩, endpoint.port⟩

/-- The fault that an error of a socket stands for. -/
def listenFaultOf (error : IO.Error) : ListenFault :=
  match error with
  | .resourceBusy .. => .addressInUse
  | .unsupportedOperation 4294967197 _ => .addressNotAvailable
  | other => .other (toString other)

/-- Listens on an endpoint, and keeps the socket. -/
def listenOn (kept : IO.Ref (Option TCP.Socket.Server)) (endpoint : Endpoint) :
    IO (Except ListenFault Unit) := do
  try
    let server ← TCP.Socket.Server.mk
    server.bind (socketAddress endpoint)
    server.listen 1024
    kept.set (some server)
    return .ok ()
  catch error => return .error (listenFaultOf error)

/-- What a client sends, read until it amounts to a request. -/
partial def receive (client : TCP.Socket.Client) (bytes : List UInt8) : Async Received := do
  match Received.ofBytes bytes with
  | .part =>
    match ← client.recv? 65536 with
    | none => return .malformed
    | some more => receive client (bytes ++ more.toList)
  | received => return received

/-- Answers the request of one client. -/
def converse (service : IO.Ref Service) (client : TCP.Socket.Client) : Async Unit := do
  match ← receive client [] with
  | .request request =>
    match ← service.modifyGet fun service => service.answer request with
    | .answers response => client.send response.text.toUTF8
    | .hangs => return
  | _ => client.send (Response.bare 400 none).text.toUTF8
  client.shutdown

/-- Answers clients one after another as they come. -/
partial def acceptAll (server : TCP.Socket.Server) (service : IO.Ref Service) : Async Unit := do
  let client ← server.accept
  background (converse service client)
  acceptAll server service

/-- Serves until the program is interrupted. -/
def serve (server : TCP.Socket.Server) (service : Service) : Async Unit := do
  background (acceptAll server (← IO.mkRef service))
  let interrupt ← Signal.Waiter.mk .sigint false
  discard <| await (← interrupt.wait)

/-- The words of the program for what it refuses. -/
def programWording : Wording where
  json _ := "not a JSON text"
  settings _ := "not a settings document"
  body _ fault := fault.message

/-- Starts the service of a directory and serves it; gives the exit code. -/
def runStart (directory : String) : IO UInt32 := do
  let kept ← IO.mkRef none
  let begun ← start ⟨programWording, entryOnDisk, listenOn kept⟩ directory
  begun.warnings.forM fun warning => IO.eprintln warning
  match begun.result, ← kept.get with
  | .listening service, some server => (serve server service).block
  | .failed fault, _ => IO.eprintln ("Search service failed: " ++ fault.message)
  | _, _ => pure ()
  return begun.result.exitCode

/-- Runs a command; gives the exit code. -/
def Command.run (command : Command) : IO UInt32 := do
  let found ←
    match command.directory? with
    | some path => entryOnDisk path
    | none => pure (.error .notFound)
  match command.checked found with
  | .error fault =>
    IO.eprint fault.message
    return 2
  | .ok (.start directory) => runStart directory
  | .ok (.help _) =>
    IO.print usage
    return 0
  | .ok .version =>
    IO.print RecordSearch.version
    return 0

end RecordSearch

/-- Runs the program with its arguments. -/
def main (arguments : List String) : IO UInt32 := do
  match RecordSearch.Command.ofArguments arguments with
  | .error fault =>
    IO.eprint fault.message
    return 2
  | .ok command => command.run
