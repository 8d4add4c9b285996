/-
The accept loop of `run_daemon` and its clients, as one system of parties
that wait for one another.

# The parties

Clients connect, deliver bytes in pieces, hang up; frames pass the XDP
program; the daemon runs the loop. Clients are numbered in the order they
connect, which is the order the listener hands them out. `Loop.apply`
says which action is enabled in which state and what it does; an action
that waits (`accept` for a client, a read for bytes) is not enabled until
what it waits for is there.

The loop holds ONE stream at a time: the loop body is awaited from end
to end before the next `accept`. `stream` is the number of the
connection it is at, and every `continue`, and the end of the body,
is `Loop.next`.

# What is read and written

`read_u32` and `read_exact` succeed when the bytes are there and fail
when the client has hung up before them. A write may fail at any byte,
for any reason; what was written before the failure stays written.
Writes do not wait: a response fits the socket's buffer. The reading of
the wall clock for connection `c` is `clock c`: a connection is
dispatched once at most, so an arbitrary function of `c` is an arbitrary
sequence of readings.
-/
import RustGuard.Wire
import RustGuard.Lib.Bytes

namespace RustGuard

open Lib

-- =========================================================== the state

/-- A client's connection. -/
structure Conn where
  /-- All the client has sent. -/
  sent : List UInt8
  /-- The part of it the daemon has not read yet. -/
  rx : List UInt8
  /-- The client has hung up. -/
  closed : Bool
  /-- All the daemon has written. -/
  tx : List UInt8
  deriving DecidableEq, Repr

/-- A connection nothing has happened on. -/
def Conn.init : Conn := ⟨[], [], false, []⟩

/-- Where in its body the loop is: before the call of that name. -/
inductive Phase
  | accept
  | readLen
  | readBody (len : UInt32)
  | dispatch (buf : List UInt8)
  | writeLen (respBytes : List UInt8)
  | writeBody (respBytes : List UInt8)
  | flush
  deriving DecidableEq, Repr

/-- The loop, its clients, and the maps. -/
structure Loop where
  /-- How many clients have connected. -/
  connected : Nat
  conns : Nat → Conn
  /-- The connection the loop serves, or accepts next. -/
  stream : Nat
  phase : Phase
  guard : Guard

/-- The loop as `run_daemon` enters it. -/
def Loop.init : Loop := ⟨0, fun _ => .init, 0, .accept, .init⟩

/-- A change to one connection. -/
def Loop.update (s : Loop) (c : Nat) (f : Conn → Conn) : Loop :=
  { s with conns := Function.update s.conns c (f (s.conns c)) }

/-- Done with this stream, back to `accept`. -/
def Loop.next (s : Loop) : Loop :=
  { s with stream := s.stream + 1, phase := .accept }

/-- What the loop makes of a body: the response, and the maps after
it. -/
def handle (sj : SerdeJson) (g : Guard) (utc : Option Int64)
    (buf : List UInt8) : Guard × DaemonResponse :=
  match sj.requestFromSlice buf with
  | .ok req => dispatch g utc req
  | .error _ => (g, .error "invalid request")

/-- The body of the first frame, once it is complete. -/
def body? (bytes : List UInt8) : Option (List UInt8) :=
  (takeFrame bytes).map Prod.fst

/-- The loop body on a stream that holds all these bytes when it ends and
takes all that is written: the maps after it, and what was written. -/
def serve (sj : SerdeJson) (g : Guard) (utc : Option Int64)
    (bytes : List UInt8) : Guard × List UInt8 :=
  match body? bytes with
  | some buf =>
      let (g, resp) := handle sj g utc buf
      (g, putFrame (sj.responseToVec resp))
  | none => (g, [])

-- ========================================================= the actions

/-- What can happen next. A failing write has written `n` bytes. -/
inductive Action
  | connect
  | deliver (c : Nat) (bytes : List UInt8)
  | disconnect (c : Nat)
  | frame (ctx : XdpContext) (ktime : Nat)
  | accept
  | acceptErr
  | readLen
  | readLenErr
  | readBody
  | readBodyErr
  | dispatch
  | writeLen
  | writeLenErr (n : Nat)
  | writeBody
  | writeBodyErr (n : Nat)
  | flush
  deriving DecidableEq, Repr

/-- The actions that are the daemon's own. -/
def Action.isDaemon : Action → Bool
  | .connect | .deliver _ _ | .disconnect _ | .frame _ _ => false
  | _ => true

section Apply

variable (nt : NetworkTypes) (sj : SerdeJson) (clock : Nat → Option Int64)

/-- One action, where it is enabled. -/
def Loop.apply (s : Loop) : Action → Option Loop
  | .connect => some { s with connected := s.connected + 1 }
  | .deliver c bytes =>
      if c < s.connected ∧ (s.conns c).closed = false then
        some (s.update c fun conn => { conn with
          sent := conn.sent ++ bytes
          rx := conn.rx ++ bytes })
      else none
  | .disconnect c =>
      if c < s.connected then
        some (s.update c fun conn => { conn with closed := true })
      else none
  | .frame ctx ktime =>
      some { s with guard := (s.guard.step nt (.frame ctx ktime)).1 }
  | .accept =>
      if s.phase = .accept ∧ s.stream < s.connected then
        some { s with phase := .readLen }
      else none
  | .acceptErr => if s.phase = .accept then some s else none
  | .readLen =>
      match s.phase, (s.conns s.stream).rx with
      | .readLen, a :: b :: c :: d :: rest =>
          some { s.update s.stream fun conn => { conn with rx := rest } with
            phase := .readBody (u32FromBeBytes a b c d) }
      | _, _ => none
  | .readLenErr =>
      if s.phase = .readLen ∧ (s.conns s.stream).closed
          ∧ (s.conns s.stream).rx.length < 4 then
        some s.next
      else none
  | .readBody =>
      match s.phase with
      | .readBody len =>
          if len.toNat ≤ (s.conns s.stream).rx.length then
            some { s.update s.stream fun conn => { conn with
                rx := conn.rx.drop len.toNat } with
              phase := .dispatch ((s.conns s.stream).rx.take len.toNat) }
          else none
      | _ => none
  | .readBodyErr =>
      match s.phase with
      | .readBody len =>
          if (s.conns s.stream).closed
              ∧ (s.conns s.stream).rx.length < len.toNat then
            some s.next
          else none
      | _ => none
  | .dispatch =>
      match s.phase with
      | .dispatch buf =>
          let (guard, resp) := handle sj s.guard (clock s.stream) buf
          some { s with guard, phase := .writeLen (sj.responseToVec resp) }
      | _ => none
  | .writeLen =>
      match s.phase with
      | .writeLen respBytes =>
          some { s.update s.stream fun conn => { conn with
              tx := conn.tx
                ++ u32ToBeBytes (UInt32.ofNat respBytes.length) } with
            phase := .writeBody respBytes }
      | _ => none
  | .writeLenErr n =>
      match s.phase with
      | .writeLen respBytes =>
          some (s.update s.stream fun conn => { conn with
            tx := conn.tx ++ (u32ToBeBytes
              (UInt32.ofNat respBytes.length)).take n }).next
      | _ => none
  | .writeBody =>
      match s.phase with
      | .writeBody respBytes =>
          some { s.update s.stream fun conn => { conn with
              tx := conn.tx ++ respBytes } with
            phase := .flush }
      | _ => none
  | .writeBodyErr n =>
      match s.phase with
      | .writeBody respBytes =>
          some (s.update s.stream fun conn => { conn with
            tx := conn.tx ++ respBytes.take n }).next
      | _ => none
  | .flush => if s.phase = .flush then some s.next else none

/-- Any interleaving of any actions from the start. -/
def Reachable (s : Loop) : Prop :=
  Machine.Moves (Loop.apply nt sj clock) (fun _ => True) .init s

/-- Any number of steps of the daemon alone. -/
def DaemonMoves : Loop → Loop → Prop :=
  Machine.Moves (Loop.apply nt sj clock) fun a => a.isDaemon = true

end Apply

end RustGuard
