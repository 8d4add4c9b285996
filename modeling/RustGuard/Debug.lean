/-
The accept loop as `cargo build` makes it, where arithmetic that
overflows panics.

One expression of the loop can overflow, the end time of a ban. The loop
runs in a task of its own (`tokio::spawn`), and nobody looks at how the
task ended: `run_daemon` goes on waiting for ctrl-c. So a panic does not
end the process. It drops what the task held, which is the listener, the
stream it was serving and its handles of the maps. The socket's file
stays where it is, and a client that connects to it is refused; the
clients in the queue are hung up on; the XDP program, and the maps in
the kernel, belong to the other task and stay.
-/
import RustGuard.Accept

namespace RustGuard

open Lib

/-- The request `match` of the accept loop, `none` where it panics. -/
def debugDispatch (g : Guard) (utc : Option Int64) :
    DaemonRequest → Option (Guard × DaemonResponse)
  | .ban target ttl =>
      match Ipv4Addr.fromStr target with
      | some ip =>
          let now := getBootTimeNs utc
          (debugEndTime now ttl).map fun endTime =>
            let value : BanValue := ⟨endTime⟩
            let (bannedIps, _) := g.bannedIps.insert ip.toU32 value
            ({ g with bannedIps }, .ok)
      | none => some (g, .error "invalid ip")
  | req => some (dispatch g utc req)

/-- What the loop makes of a body, `none` where it panics. -/
def debugHandle (sj : SerdeJson) (g : Guard) (utc : Option Int64)
    (buf : List UInt8) : Option (Guard × DaemonResponse) :=
  match sj.requestFromSlice buf with
  | .ok req => debugDispatch g utc req
  | .error _ => some (g, .error "invalid request")

/-- The loop, and whether the task it runs in is still there. -/
structure DebugLoop where
  loop : Loop
  alive : Bool

/-- As `run_daemon` spawns it. -/
def DebugLoop.init : DebugLoop := ⟨.init, true⟩

section Apply

variable (nt : NetworkTypes) (sj : SerdeJson) (clock : Nat → Option Int64)

/-- One action, where it is enabled. Without the task nobody accepts,
reads or writes, and there is nothing to connect or send to. -/
def DebugLoop.apply (d : DebugLoop) (a : Action) : Option DebugLoop :=
  if d.alive then
    match a, d.loop.phase with
    | .dispatch, .dispatch buf =>
        match debugHandle sj d.loop.guard (clock d.loop.stream) buf with
        | some (guard, resp) =>
            some ⟨{ d.loop with
              guard, phase := .writeLen (sj.responseToVec resp) }, true⟩
        | none => some ⟨d.loop, false⟩
    | a, _ => (d.loop.apply nt sj clock a).map (⟨·, true⟩)
  else
    match a with
    | .disconnect c =>
        (d.loop.apply nt sj clock (.disconnect c)).map (⟨·, false⟩)
    | .frame ctx ktime =>
        (d.loop.apply nt sj clock (.frame ctx ktime)).map (⟨·, false⟩)
    | _ => none

/-- Any number of actions of anyone. -/
def DebugMoves : DebugLoop → DebugLoop → Prop :=
  Machine.Moves (DebugLoop.apply nt sj clock) fun _ => True

/-- Any interleaving of any actions from the start. -/
def DebugReachable (d : DebugLoop) : Prop :=
  DebugMoves nt sj clock .init d

end Apply

end RustGuard
