/-
The command line's side of the socket: `send_command`, with every way it
can fail and every line it can print.

What is at the other end of the path is a parameter (`Socket`): what
`connect`, the writes and `flush` return, and all that comes back to the
bytes that were written. The stream itself (`UnixStream`) is state: a
write appends to it, and a read takes the next bytes of what comes back
to all that was written so far. Where these end, a read fails, with the
text `eof`. Errors are what the command line shows for them, the
outermost context; `anyhow!` formats the text of the cause in one place
only, and there it is `eof`.
-/
import RustGuard.Accept

namespace RustGuard

open Lib

/-- `Commands`. -/
inductive Commands
  | daemon (iface : String)
  | ban (target : String) (ttl : Option UInt64)
  | unban (target : String)
  | list
  | stats
  | monitor
  deriving DecidableEq, Repr

/-- The request a command becomes; the other two are not for the
daemon. -/
def Commands.request : Commands → Option DaemonRequest
  | .ban target ttl => some (.ban target ttl)
  | .unban target => some (.unban target)
  | .list => some .list
  | .stats => some .stats
  | .daemon _ | .monitor => none

/-- The other end, as the client meets it. -/
structure Socket where
  connect : Except String Unit
  /-- Of these bytes, behind those that were written before. -/
  write : List UInt8 → List UInt8 → Except String Unit
  flush : Except String Unit
  /-- All that comes back to what was written. -/
  respond : List UInt8 → List UInt8
  /-- The error of a read that this does not fill. -/
  eof : String

/-- An open stream: what was written to it, and how many bytes were
read. -/
structure UnixStream where
  soket : Socket
  written : List UInt8
  taken : Nat

namespace UnixStream

/-- `UnixStream::connect`. -/
def connect (soket : Socket) : Except String UnixStream := do
  soket.connect
  return ⟨soket, [], 0⟩

/-- `write_all`. -/
def writeAll (stream : UnixStream) (bytes : List UInt8) :
    Except String UnixStream := do
  stream.soket.write stream.written bytes
  return { stream with written := stream.written ++ bytes }

/-- `write_u32`. -/
def writeU32 (stream : UnixStream) (n : UInt32) : Except String UnixStream :=
  stream.writeAll (u32ToBeBytes n)

/-- What has come back and was not read yet. -/
def rest (stream : UnixStream) : List UInt8 :=
  (stream.soket.respond stream.written).drop stream.taken

/-- `read_u32`. -/
def readU32 (stream : UnixStream) : Except String (UInt32 × UnixStream) :=
  match stream.rest with
  | a :: b :: c :: d :: _ =>
      .ok (u32FromBeBytes a b c d, { stream with taken := stream.taken + 4 })
  | _ => .error stream.soket.eof

/-- `read_exact`, of a buffer of `n` bytes. -/
def readExact (stream : UnixStream) (n : Nat) :
    Except String (List UInt8 × UnixStream) :=
  if stream.rest.length < n then .error stream.soket.eof
  else .ok (stream.rest.take n, { stream with taken := stream.taken + n })

end UnixStream

/-- The lines printed for a response. -/
def printed : DaemonResponse → List String
  | .ok => ["Success"]
  | .error e => ["Error: " ++ e]
  | .list list => "Active bans:" :: list.map fun item => "  " ++ item
  | .stats s => ["Stats: " ++ s]

/-- `send_command`, behind `flush`. -/
def receiveResponse (sj : SerdeJson) (stream : UnixStream) :
    Except String (List String) := do
  let (respLen, stream) ← stream.readU32.mapError fun e =>
    "failed to read response length from daemon: " ++ e
  if respLen = 0 then
    throw "daemon returned empty response"
  let (respBuf, _) ← (stream.readExact respLen.toNat).mapError fun _ =>
    "failed to read full response body"
  let response ← sj.responseFromSlice respBuf
  return printed response

/-- `send_command`: the lines printed, or the error. -/
def sendCommand (sj : SerdeJson) (soket : Socket) (cmd : Commands) :
    Except String (List String) := do
  let stream ← (UnixStream.connect soket).mapError fun _ =>
    "Failed to connect to rustguard daemon. Is it running?"
  let some request := cmd.request
    | throw "Command not implemented for CLI"
  let reqBytes := sj.requestToVec request
  let stream ← stream.writeU32 (UInt32.ofNat reqBytes.length)
  let stream ← stream.writeAll reqBytes
  stream.soket.flush
  receiveResponse sj stream

/-- A socket without I/O errors. -/
def Socket.reliable (respond : List UInt8 → List UInt8) (eof : String) :
    Socket where
  connect := .ok ()
  write _ _ := .ok ()
  flush := .ok ()
  respond
  eof

/-- One with the daemon in the given state at its other end. -/
def Socket.ofDaemon (sj : SerdeJson) (g : Guard) (utc : Option Int64)
    (eof : String) : Socket :=
  .reliable (fun bytes => (serve sj g utc bytes).2) eof

end RustGuard
