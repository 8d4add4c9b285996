/-
The ring between the hooks and the monitor: `EVENTS.output` on the one
side, the loop of `monitor_run` on the other, and the struct that
crosses over as bytes.

# The struct

`NetEvent` is `#[repr(C)]` on both sides. The hooks write the struct as
it lies in their memory, padding included; the monitor checks the length,
nothing else, and casts. To read bytes as a `NetEvent` that are none (an
enum byte without a variant) is undefined behaviour, and the source does
not guard against it. `ofBytes?` is the cast: it has no answer where the
language has none, and `Pipe.invalid` remembers that the monitor asked.

# The loop

`ring.next()` hands out the oldest record, and its room is given back
only when the loop body is done with it. Hooks run in between, on any
processor. So the loop has two steps, `next` and `body`, and a hook may
run before, between and behind them. Whether the ring takes an event is
for the ring to say, not an input as in Hooks.lean.
-/
import RustGuard.Monitor
import RustGuard.Lib.RingBuf

namespace RustGuard

open Lib Lib.Layout

-- ================================================= the struct in memory

/-- `EventType as u8`. -/
def EventType.discriminant : EventType → Nat
  | unknown => 0
  | connect => 1
  | accept => 2
  | send => 3
  | recv => 4
  | close => 5
  | stateChange => 6
  | dns => 7
  | tlsHandshake => 8

def EventType.ofDiscriminant? : Nat → Option EventType
  | 0 => some unknown
  | 1 => some connect
  | 2 => some accept
  | 3 => some send
  | 4 => some recv
  | 5 => some close
  | 6 => some stateChange
  | 7 => some dns
  | 8 => some tlsHandshake
  | _ => none

/-- `TransportProtocol as u8`. -/
def TransportProtocol.discriminant : TransportProtocol → Nat
  | unknown => 0
  | tcp => 6
  | udp => 17

def TransportProtocol.ofDiscriminant? : Nat → Option TransportProtocol
  | 0 => some unknown
  | 6 => some tcp
  | 17 => some udp
  | _ => none

/-- `Direction as u8`. -/
def Direction.discriminant : Direction → Nat
  | unknown => 0
  | ingress => 1
  | egress => 2

def Direction.ofDiscriminant? : Nat → Option Direction
  | 0 => some unknown
  | 1 => some ingress
  | 2 => some egress
  | _ => none

/-- An integer field of `w` bytes. -/
def wordField (w : Nat) (h : 0 < w := by decide) : Field := ⟨w, w, h⟩

/-- A `[u8; 16]` field. -/
def arrayField : Field := { size := 16, align := 1 }

/-- The fields of `NetEvent`, in order. -/
def netEventFields : List Field :=
  [wordField 8, wordField 8, wordField 4, wordField 4, wordField 4,
    wordField 1, wordField 1, wordField 1, arrayField, arrayField,
    arrayField, wordField 2, wordField 2, wordField 4]

/-- `NetEvent::size()`. -/
def netEventSize : Nat := structSize netEventFields

section Host

variable (e : Endian)

/-- An integer in memory. -/
def wordValue (w n : Nat) (h : 0 < w := by decide) : Value where
  toField := wordField w h
  bytes := neBytes e w n
  length_bytes := length_neBytes e w n

/-- An array in memory. -/
def arrayValue (bytes : Bytes16) : Value where
  toField := arrayField
  bytes := bytes.toList
  length_bytes := bytes.length_toList

/-- The fields of an event in memory. -/
def NetEvent.values (event : NetEvent) : List Value :=
  [wordValue e 8 event.timestampNs.toNat, wordValue e 8 event.socketId.toNat,
    wordValue e 4 event.pid.toNat, wordValue e 4 event.tid.toNat,
    wordValue e 4 event.uid.toNat, wordValue e 1 event.event.discriminant,
    wordValue e 1 event.protocol.discriminant,
    wordValue e 1 event.direction.discriminant, arrayValue event.comm,
    arrayValue event.srcIp, arrayValue event.dstIp,
    wordValue e 2 event.srcPort.toNat, wordValue e 2 event.dstPort.toNat,
    wordValue e 4 event.ret.toUInt32.toNat]

/-- The bytes `output(&event, 0)` writes, with what lies in the
padding. -/
def NetEvent.toBytes (pad : Nat → UInt8) (event : NetEvent) : List UInt8 :=
  bytesOf pad (event.values e)

/-- Sixteen bytes. -/
def bytes16? (bytes : List UInt8) : Option Bytes16 :=
  if h : bytes.length = 16 then some ⟨bytes.toArray, h⟩ else none

/-- `&*(bytes.as_ptr() as *const NetEvent)`. No check of the source's:
`none` is where reading through the pointer is undefined. -/
def NetEvent.ofBytes? (bytes : List UInt8) : Option NetEvent :=
  match fieldsOf netEventFields bytes with
  | [timestampNs, socketId, pid, tid, uid, event, protocol, direction,
      comm, srcIp, dstIp, srcPort, dstPort, ret] => do
      let event ← EventType.ofDiscriminant? (ofNeBytes e event)
      let protocol ← TransportProtocol.ofDiscriminant? (ofNeBytes e protocol)
      let direction ← Direction.ofDiscriminant? (ofNeBytes e direction)
      let comm ← bytes16? comm
      let srcIp ← bytes16? srcIp
      let dstIp ← bytes16? dstIp
      return {
        timestampNs := UInt64.ofNat (ofNeBytes e timestampNs)
        socketId := UInt64.ofNat (ofNeBytes e socketId)
        pid := UInt32.ofNat (ofNeBytes e pid)
        tid := UInt32.ofNat (ofNeBytes e tid)
        uid := UInt32.ofNat (ofNeBytes e uid)
        event, protocol, direction, comm, srcIp, dstIp
        srcPort := UInt16.ofNat (ofNeBytes e srcPort)
        dstPort := UInt16.ofNat (ofNeBytes e dstPort)
        ret := (UInt32.ofNat (ofNeBytes e ret)).toInt32 }
  | _ => none

-- ============================================================ the hooks

/-- A run of one of the two hooks, with what the kernel answers; the
ring's answer is not among it. -/
inductive HookRun
  | connect (k : Kernel) (sk : Sock) (ret : Int64)
  | accept (k : Kernel) (newsk : Except UInt32 (Option Sock))

/-- What it returns when the ring answers so. -/
def HookRun.result (ringOutput : Except Int64 Unit) :
    HookRun → Except UInt32 (Option NetEvent)
  | .connect k sk ret =>
      (tryTcpV4ConnectExit e { k with ringOutput } sk ret).map some
  | .accept k newsk => tryIncomingConnection e { k with ringOutput } newsk

/-- The event it offers to the ring, if it gets that far. -/
def HookRun.offer (run : HookRun) : Option NetEvent :=
  (run.result e (.ok ())).toOption.join

-- ============================================================= the loop

/-- `RingBuf::with_byte_size(1024 * 1024, 0)`. -/
def eventsByteSize : Nat := 1024 * 1024

/-- The ring and the monitor. -/
structure Pipe where
  ring : RingBuf eventsByteSize
  /-- The loop body has an item: the oldest record. -/
  held : Bool
  cache : ProcessCache
  /-- What has been printed below the header. -/
  text : String
  /-- Bytes were cast that are no `NetEvent`. -/
  invalid : Bool

/-- The monitor as it enters its loop. -/
def Pipe.init : Pipe where
  ring := .empty (by decide)
  held := false
  cache := .default
  text := ""
  invalid := false

/-- What happens next: a hook runs, on some memory; the loop asks for an
item; the loop body runs. -/
inductive PipeStep
  | hook (run : HookRun) (pad : Nat → UInt8)
  | next
  | body (reading : Reading)

/-- A hook: an event that is offered goes into the ring or is lost. -/
def Pipe.hook (p : Pipe) (run : HookRun) (pad : Nat → UInt8) :
    Pipe × Option NetEvent :=
  match run.offer e with
  | some event =>
      let (ring, ringOutput) := p.ring.output (event.toBytes e pad)
      ({ p with ring }, (run.result e ringOutput).toOption.join)
  | none => (p, none)

/-- `while let Some(item) = ring.next()`, or the sleep behind it. -/
def Pipe.next (p : Pipe) : Pipe := { p with held := p.ring.next.isSome }

/-- The loop body, which gives the item back on every way out. -/
def Pipe.body (p : Pipe) (reading : Reading) : Pipe :=
  match p.held, p.ring.next with
  | true, some bytes =>
      let p := { p with ring := p.ring.consume, held := false }
      if bytes.length ≠ netEventSize then p
      else match NetEvent.ofBytes? e bytes with
        | some event =>
            let (cache, line) := printEvent p.cache (reading, event)
            { p with cache, text := p.text ++ line }
        | none => { p with invalid := true }
  | _, _ => p

/-- One step, and the event a hook reports as put into the ring. -/
def Pipe.step (p : Pipe) : PipeStep → Pipe × Option NetEvent
  | .hook run pad => p.hook e run pad
  | .next => (p.next, none)
  | .body reading => (p.body e reading, none)

end Host

end RustGuard
