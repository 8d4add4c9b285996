/-
Start-up (`main`, and `run_daemon` and `monitor_run` up to the loops
they end in): every call that can fail, in order, and every place that
can panic.

What a fallible call answers is an input (`World.answer`). What such a
call finds is process state: whether a global logger is installed, and
which programs and maps of the loaded object are still there to take.
Three things can become of an answer: it is ignored (`setrlimit`,
`remove_file`), the error is returned (`?`), or there is none and the
code unwraps (`program_mut`, `take_map`, and `env_logger::init`, which
panics on a second call).

Errors are what the command line shows for them, the outermost context.
-/
import RustGuard.Client

namespace RustGuard

open Lib

-- ============================================================ the world

/-- The fallible calls, a program or map call with the name it is about. -/
inductive Call
  | setrlimit
  | ebpfLoad
  | ebpfLoggerInit
  | asyncFd
  | btfFromSysFs
  | programTryInto (name : String)
  | xdpLoad (name : String)
  | xdpAttach (name iface : String)
  | fexitLoad (name function : String)
  | fexitAttach (name : String)
  | mapTryInto (name : String)
  | removeFile
  | bind (path : String)
  | setPermissions (path : String)
  deriving DecidableEq, Repr

/-- The programs and maps of an eBPF object. -/
structure Object where
  programs : List String
  maps : List String
  deriving DecidableEq, Repr

/-- What the eBPF crate defines. -/
def rustguardObject : Object where
  programs := ["rustguard", "tcp_v4_connect_exit", "incoming_connection"]
  maps := ["BANNED_IPS", "STATS", "EVENTS"]

/-- What the calls answer, and the object built into the program. -/
structure World where
  answer : Call → Except String Unit
  object : Object

/-- The state of the process. -/
structure Process where
  /-- A global logger is installed. -/
  logger : Bool := false
  programs : List String := []
  maps : List String := []
  /-- The socket it accepts connections on. -/
  listening : Option String := none
  /-- It reads events from the ring. -/
  monitoring : Bool := false
  deriving DecidableEq, Repr

/-- How a start-up ends early. -/
inductive Exit
  | panic (message : String)
  | err (message : String)
  deriving DecidableEq, Repr

abbrev Start := ExceptT Exit (StateM Process)

def socketPath : String := "/tmp/rustguard.sock"

-- ======================================================== what is called

section Calls

variable (w : World)

/-- `call?`. -/
def question (call : Call) : Start Unit :=
  match w.answer call with
  | .ok () => pure ()
  | .error e => throw (.err e)

/-- `call.context(context)?`. -/
def questionContext (call : Call) (context : String) : Start Unit :=
  match w.answer call with
  | .ok () => pure ()
  | .error _ => throw (.err context)

/-- A call whose result is only logged, or dropped. -/
def ignored (call : Call) : Start Unit :=
  match w.answer call with
  | .ok () => pure ()
  | .error _ => pure ()

/-- `env_logger::init()`. -/
def envLoggerInit : Start Unit := do
  if (← get).logger then
    throw (.panic
      "env_logger::init should not be called after logger initialized")
  modify fun p => { p with logger := true }

/-- `aya::Ebpf::load(..)?`. -/
def ebpfLoad : Start Unit := do
  question w .ebpfLoad
  modify fun p => { p with
    programs := w.object.programs
    maps := w.object.maps }

/-- `EbpfLogger::init`, and the task that flushes the logger if there is
one. -/
def ebpfLoggerInit : Start Unit :=
  match w.answer .ebpfLoggerInit with
  | .error _ => pure ()
  | .ok () => question w .asyncFd

/-- `ebpf.program_mut(name).unwrap()`. -/
def programMutUnwrap (name : String) : Start Unit := do
  if name ∉ (← get).programs then
    throw (.panic "called `Option::unwrap()` on a `None` value")

/-- `ebpf.take_map(name)`: whether it was there. -/
def takeMap (name : String) : Start Bool := do
  let p ← get
  set { p with maps := p.maps.erase name }
  return name ∈ p.maps

/-- `ebpf.take_map(name).unwrap()`. -/
def takeMapUnwrap (name : String) : Start Unit := do
  if !(← takeMap name) then
    throw (.panic "called `Option::unwrap()` on a `None` value")

-- ==================================================== the three commands

/-- `run_daemon`, to where it accepts connections. -/
def runDaemon (iface : String) : Start Unit := do
  envLoggerInit
  ignored w .setrlimit
  ebpfLoad w
  ebpfLoggerInit w
  programMutUnwrap "rustguard"
  question w (.programTryInto "rustguard")
  question w (.xdpLoad "rustguard")
  questionContext w (.xdpAttach "rustguard" iface)
    "failed to attach the XDP program"
  takeMapUnwrap "BANNED_IPS"
  question w (.mapTryInto "BANNED_IPS")
  takeMapUnwrap "STATS"
  question w (.mapTryInto "STATS")
  ignored w .removeFile
  question w (.bind socketPath)
  question w (.setPermissions socketPath)
  modify fun p => { p with listening := some socketPath }

/-- Loading and attaching one hook of `monitor_run`. -/
def attachHook (name function : String) : Start Unit := do
  programMutUnwrap name
  question w (.programTryInto name)
  question w (.fexitLoad name function)
  question w (.fexitAttach name)

/-- `monitor_run`, to where it reads the ring. -/
def monitorRun : Start Unit := do
  ebpfLoad w
  ebpfLoggerInit w
  question w .btfFromSysFs
  attachHook w "tcp_v4_connect_exit" "tcp_v4_connect"
  attachHook w "incoming_connection" "inet_csk_accept"
  if !(← takeMap "EVENTS") then
    throw (.err "EVENTS map missing")
  question w (.mapTryInto "EVENTS")
  modify fun p => { p with monitoring := true }

/-- `main`, of a command line that parsed. -/
def main (sj : SerdeJson) (soket : Socket) (cmd : Commands) : Start Unit := do
  envLoggerInit
  match cmd with
  | .daemon iface => runDaemon w iface
  | .monitor => monitorRun w
  | cmd =>
      match sendCommand sj soket cmd with
      | .ok _ => pure ()
      | .error e => throw (.err e)

end Calls

end RustGuard
