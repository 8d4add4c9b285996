/-
Several daemons on one host (`run_daemon`, from `attach` to its last
line).

There is one socket path, and it is a constant. A daemon loads its own
copy of the maps and attaches its own program, takes away whatever is at
the path, binds, and waits for ctrl-c; on ctrl-c it takes away whatever
is at the path once more. It never looks whether what it takes away is
its own. So daemons on different interfaces do not share a table, they
share a NAME, and this module is about who has it.

# The name and the socket

A client needs the name to CONNECT, and for nothing else. From `bind` on
the kernel queues whoever connects to the socket that is at the path;
the accept loop takes them out of the queue once it runs; and neither
the queue nor a stream that was accepted is touched when the file goes
away. So each daemon has its own accept loop, queue and streams, which
are those of Accept.lean: `connect` adds a client to the loop of the
daemon whose socket is at the path, and everything else that can happen
to a loop happens to it by its number (`act`).

A client that finds no file, or a file nobody listens on, is refused
("Failed to connect to rustguard daemon. Is it running?").

# How it ends

A process can end anywhere: a call with a `?` fails, it is killed, or
`main` returns. Then the program comes off its interface and the socket
and the streams are closed, but the file stays where it is. `bind` fails
if there is a file, and `set_permissions` if there is none.
-/
import RustGuard.Accept

namespace RustGuard

open Lib

/-- How far a daemon is: before the call of that name. -/
inductive Stage
  | attach
  | removeFile
  | bind
  | setPermissions
  | ctrlC
  | exit
  | gone
  deriving DecidableEq, Repr

/-- The program is on its interface. -/
def Stage.attached : Stage → Bool
  | .attach | .gone => false
  | _ => true

/-- The socket is bound and not closed: clients can be in its queue. -/
def Stage.listening : Stage → Bool
  | .setPermissions | .ctrlC | .exit => true
  | _ => false

/-- The task with the accept loop has been spawned. -/
def Stage.serving : Stage → Bool
  | .ctrlC | .exit => true
  | _ => false

/-- What can happen to the loop of a daemon that far, other than that
someone connects. -/
def Stage.allows (stage : Stage) : Action → Bool
  | .connect => false
  | .frame _ _ => stage.attached
  | .deliver _ _ | .disconnect _ => stage.listening
  | _ => stage.serving

/-- The daemons, and the file at `SOCKET_PATH`. -/
structure Host where
  stage : Nat → Stage
  /-- The accept loop of each of them, with its clients and maps. -/
  loops : Nat → Loop
  /-- Whose socket is at the path. -/
  path : Option Nat

/-- No daemon has got anywhere yet. -/
def Host.init : Host := ⟨fun _ => .attach, fun _ => .init, none⟩

/-- What can happen next, on which daemon's part. -/
inductive HostAction
  | attach (i : Nat)
  | removeFile (i : Nat)
  | bind (i : Nat)
  | setPermissions (i : Nat)
  /-- Ctrl-c arrives, and what is at the path is taken away. -/
  | ctrlC (i : Nat)
  /-- The process ends, for whatever reason. -/
  | exit (i : Nat)
  /-- A client connects to the path. -/
  | connect
  /-- Anything else, on one daemon's sockets or interface. -/
  | act (i : Nat) (a : Action)
  deriving DecidableEq, Repr

/-- One daemon goes on. -/
def Host.goto (h : Host) (i : Nat) (stage : Stage) : Host :=
  { h with stage := Function.update h.stage i stage }

/-- What one daemon's loop becomes. -/
def Host.setLoop (h : Host) (i : Nat) (loop : Loop) : Host :=
  { h with loops := Function.update h.loops i loop }

/-- Whom a client that connects is queued by: the daemon whose socket is
at the path, if it is not closed. -/
def Host.connectsTo (h : Host) : Option Nat :=
  h.path.filter fun i => (h.stage i).listening

section Apply

variable (nt : NetworkTypes) (sj : SerdeJson)
  (clock : Nat → Nat → Option Int64)

/-- One action, where it is enabled. -/
def Host.apply (h : Host) : HostAction → Option Host
  | .attach i =>
      if h.stage i = .attach then some (h.goto i .removeFile) else none
  | .removeFile i =>
      if h.stage i = .removeFile then
        some { h.goto i .bind with path := none }
      else none
  | .bind i =>
      if h.stage i = .bind ∧ h.path = none then
        some { h.goto i .setPermissions with path := some i }
      else none
  | .setPermissions i =>
      if h.stage i = .setPermissions ∧ h.path.isSome then
        some (h.goto i .ctrlC)
      else none
  | .ctrlC i =>
      if h.stage i = .ctrlC then
        some { h.goto i .exit with path := none }
      else none
  | .exit i => some (h.goto i .gone)
  | .connect =>
      match h.connectsTo with
      | some i =>
          ((h.loops i).apply nt sj (clock i) .connect).map (h.setLoop i)
      | none => some h
  | .act i a =>
      if (h.stage i).allows a then
        ((h.loops i).apply nt sj (clock i) a).map (h.setLoop i)
      else none

/-- Any number of actions of anyone. -/
def HostMoves : Host → Host → Prop :=
  Machine.Moves (Host.apply nt sj clock) fun _ => True

end Apply

end RustGuard
