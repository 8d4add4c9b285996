/-
The socket hooks of the eBPF side (`event.rs`, `kernel.rs`, `socket.rs`
and the two `fexit` programs): from a kernel socket to one `NetEvent`.

# One field, two layouts

An event stores no address family. `fill_ipv4` puts the four octets into
the FIRST four of the sixteen bytes and zeros behind them, `fill_ipv6`
copies all sixteen. The header that declares the field says something
else again ("IPv4 is stored as IPv4-mapped IPv6"). Which of the layouts
an event has is for the monitor to guess.

# Byte order

A socket keeps its addresses and the remote port in network order and
the local port in host order. What a word in network order is worth as
a number depends on the host, so the byte order is a parameter
throughout (`Endian`).

# What the kernel answers

Every probe and every helper can fail; its answer is an input. `sock` is
the fields the hooks probe and its address, `Kernel` the answers of the
helpers for the current task.
-/
import RustGuard.Lib.Bytes

namespace RustGuard

open Lib

-- ============================================================ event.rs

def afInet : UInt16 := 2

def afInet6 : UInt16 := 10

def ipprotoTcp : UInt16 := 6

def ipprotoUdp : UInt16 := 17

/-- `EventType`. -/
inductive EventType
  | unknown
  | connect
  | accept
  | send
  | recv
  | close
  | stateChange
  | dns
  | tlsHandshake
  deriving DecidableEq, Repr

/-- `EventType::as_str`, and its `Display`. -/
def EventType.asStr : EventType → String
  | unknown => "UNKNOWN"
  | connect => "CONNECT"
  | accept => "ACCEPT"
  | send => "SEND"
  | recv => "RECV"
  | close => "CLOSE"
  | stateChange => "STATE"
  | dns => "DNS"
  | tlsHandshake => "TLS"

/-- `TransportProtocol`. -/
inductive TransportProtocol
  | unknown
  | tcp
  | udp
  deriving DecidableEq, Repr

/-- `Display` of a transport protocol. -/
def TransportProtocol.toText : TransportProtocol → String
  | unknown => "UNKNOWN"
  | tcp => "TCP"
  | udp => "UDP"

/-- `Direction`. -/
inductive Direction
  | unknown
  | ingress
  | egress
  deriving DecidableEq, Repr

/-- `EventType::direction`. -/
def EventType.direction : EventType → Direction
  | connect | send => .egress
  | accept | recv => .ingress
  | close | stateChange | dns | tlsHandshake | unknown => .unknown

/-- `[u8; 16]`: an address field, or a process name. -/
abbrev Bytes16 := Vector UInt8 16

/-- `NetEvent`, with the defaults of `NetEvent::default()`. -/
structure NetEvent where
  timestampNs : UInt64 := 0
  socketId : UInt64 := 0
  pid : UInt32 := 0
  tid : UInt32 := 0
  uid : UInt32 := 0
  event : EventType := .unknown
  protocol : TransportProtocol := .unknown
  direction : Direction := .unknown
  comm : Bytes16 := Vector.replicate 16 0
  srcIp : Bytes16 := Vector.replicate 16 0
  dstIp : Bytes16 := Vector.replicate 16 0
  srcPort : UInt16 := 0
  dstPort : UInt16 := 0
  ret : Int32 := 0
  deriving DecidableEq, Repr

-- =========================================================== socket.rs

/-- `sock_common`, the fields `fill_socket` reads. -/
structure SockCommon where
  skcFamily : UInt16
  skcRcvSaddr : UInt32
  skcDaddr : UInt32
  skcV6RcvSaddr : Bytes16
  skcV6Daddr : Bytes16
  skcNum : UInt16
  skcDport : UInt16
  deriving DecidableEq, Repr

/-- `sock`: its address, and what probing its fields answers. -/
structure Sock where
  addr : UInt64
  skCommon : Except Int64 SockCommon
  skProtocol : Except Int64 UInt16

/-- An address field cleared, with four octets copied to its front. -/
def frontOctets (os : Vector UInt8 4) : Bytes16 :=
  os ++ Vector.replicate 12 (0 : UInt8)

section Host

variable (e : Endian)

/-- `fill_ipv4`. -/
def fillIpv4 (event : NetEvent) (common : SockCommon) : NetEvent :=
  { event with
    srcIp := frontOctets (u32ToNeBytes e common.skcRcvSaddr)
    dstIp := frontOctets (u32ToNeBytes e common.skcDaddr)
    srcPort := common.skcNum
    dstPort := u16FromBe e common.skcDport }

/-- `fill_ipv6`. -/
def fillIpv6 (event : NetEvent) (common : SockCommon) : NetEvent :=
  { event with
    srcIp := common.skcV6RcvSaddr
    dstIp := common.skcV6Daddr
    srcPort := common.skcNum
    dstPort := u16FromBe e common.skcDport }

/-- `fill_socket`: a socket of another family leaves the event as it
is. -/
def fillSocket (event : NetEvent) (sk : Sock) : Except Int64 NetEvent := do
  let common ← sk.skCommon
  if common.skcFamily = afInet then return fillIpv4 e event common
  else if common.skcFamily = afInet6 then return fillIpv6 e event common
  else return event

/-- `protocol`. -/
def protocol (sk : Sock) : Except Int64 TransportProtocol := do
  let proto ← sk.skProtocol
  if proto = ipprotoTcp then return .tcp
  else if proto = ipprotoUdp then return .udp
  else return .unknown

-- =========================================================== kernel.rs

/-- What the helpers answer for the current task. -/
structure Kernel where
  ktimeGetNs : UInt64
  currentPidTgid : UInt64
  currentUidGid : UInt64
  currentComm : Except Int32 Bytes16
  /-- `EVENTS.output`: the ring buffer may be full. -/
  ringOutput : Except Int64 Unit

/-- `pid`. -/
def Kernel.pid (k : Kernel) : UInt32 := (k.currentPidTgid >>> 32).toUInt32

/-- `tid`. -/
def Kernel.tid (k : Kernel) : UInt32 := k.currentPidTgid.toUInt32

/-- `uid`. -/
def Kernel.uid (k : Kernel) : UInt32 := k.currentUidGid.toUInt32

-- =========================================================== the hooks

/-- `e as u32` of an `i64`. -/
def errno (err : Int64) : UInt32 := err.toUInt64.toUInt32

/-- The common tail of the two hooks: the socket's protocol and
addresses, the process name, and the event goes to the ring. -/
def emit (k : Kernel) (event : NetEvent) (sk : Sock) :
    Except UInt32 NetEvent := do
  let protocol ← (protocol sk).mapError errno
  let event ← (fillSocket e { event with protocol } sk).mapError errno
  let comm ← k.currentComm.mapError Int32.toUInt32
  let event := { event with comm }
  k.ringOutput.mapError errno
  return event

/-- The fields both hooks fill in first. -/
def startEvent (k : Kernel) (sk : Sock) (event : EventType) : NetEvent where
  timestampNs := k.ktimeGetNs
  socketId := sk.addr
  pid := k.pid
  tid := k.tid
  uid := k.uid
  event := event
  direction := event.direction

/-- `try_tcp_v4_connect_exit`: the event put into the ring. -/
def tryTcpV4ConnectExit (k : Kernel) (sk : Sock) (ret : Int64) :
    Except UInt32 NetEvent :=
  emit e k { startEvent k sk .connect with ret := ret.toInt32 } sk

/-- `try_incoming_connection`: the event put into the ring, if the
accept gave a socket. -/
def tryIncomingConnection (k : Kernel) (newsk : Except UInt32 (Option Sock)) :
    Except UInt32 (Option NetEvent) := do
  match ← newsk with
  | none => return none
  | some newsk => return some (← emit e k (startEvent k newsk .accept) newsk)

end Host

end RustGuard
