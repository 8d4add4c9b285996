/-
The XDP program (`rustguard-ebpf/src/main.rs`): from the bytes of one
frame to one verdict.

# What the model keeps

The frame sits at an address: `data` is where it starts, `dataEnd` one
past its last byte, and `ptrAt` compares addresses exactly as the source
does. Addresses are `Nat`; the sum in `ptrAt` cannot wrap for a real
frame, since no packet ends in the last page of the address space. Every
dereference is recorded (`XdpState.loads`) before it is answered, so
that "the program reads nothing outside the frame" is a statement about
a run and not about the care with which the model was written: a load
out of bounds is answered too, with a zero.

The run also carries what the program leaves behind: the counter map and
the `info!` lines. An early `Err(())` keeps whatever was done before it.

# What stays a parameter

`network-types` is not part of the repository. `NetworkTypes` is what
`try_rustguard` uses of it: the decoders of the two fields, and the
documented facts about them. The header sizes are those of its
`#[repr(C)]` structs.
-/
import RustGuard.Basic
import RustGuard.Lib.Bytes

namespace RustGuard

open Lib

-- ======================================================= network-types

/-- `EtherType`, as far as the program tells its variants apart. -/
inductive EtherType
  | ipv4
  | other (raw : UInt16)
  deriving DecidableEq, Repr

/-- `IpProto`, as far as the program tells its variants apart. -/
inductive IpProto
  | tcp
  | udp
  | other (raw : UInt8)
  deriving DecidableEq, Repr

/-- `IpError`. -/
inductive IpError
  | invalidProto (raw : UInt8)
  deriving DecidableEq, Repr

/-- What the program uses of the `network-types` crate. -/
structure NetworkTypes where
  /-- `EthHdr::ether_type()`, of bytes 12 and 13 of the header. -/
  etherType : UInt8 → UInt8 → Except UInt16 EtherType
  /-- `Ipv4Hdr::proto()`, of byte 9 of the header. -/
  proto : UInt8 → Except IpError IpProto
  /-- `UdpHdr::src_port()`, of bytes 0 and 1 of the header. -/
  srcPort : UInt8 → UInt8 → UInt16
  etherType_ipv4 : ∀ hi lo, etherType hi lo = .ok .ipv4 ↔ hi = 0x08 ∧ lo = 0x00
  proto_tcp : ∀ b, proto b = .ok .tcp ↔ b = 6
  proto_udp : ∀ b, proto b = .ok .udp ↔ b = 17
  srcPort_eq : ∀ hi lo, srcPort hi lo = u16FromBeBytes hi lo

/-- The documented decoders, every value the program does not tell apart
filed under `other`. -/
def networkTypes : NetworkTypes where
  etherType hi lo :=
    if hi = 0x08 ∧ lo = 0x00 then .ok .ipv4
    else .ok (.other (u16FromBeBytes hi lo))
  proto b :=
    if b = 6 then .ok .tcp
    else if b = 17 then .ok .udp
    else .ok (.other b)
  srcPort := u16FromBeBytes
  etherType_ipv4 hi lo := by split <;> simp_all
  proto_tcp b := by
    split
    · simp_all
    · split <;> simp_all
  proto_udp b := by
    split
    · simp_all
    · split <;> simp_all
  srcPort_eq _ _ := rfl

/-- `size_of::<EthHdr>()`, and `EthHdr::LEN`. -/
def ethHdrLen : Nat := 14

/-- `size_of::<Ipv4Hdr>()`, and `Ipv4Hdr::LEN`. -/
def ipv4HdrLen : Nat := 20

/-- `size_of::<TcpHdr>()`. -/
def tcpHdrSize : Nat := 20

/-- `size_of::<UdpHdr>()`. -/
def udpHdrSize : Nat := 8

-- ======================================================== the context

/-- The verdicts of `xdp_action` the program returns. -/
inductive XdpAction
  | aborted
  | drop
  | pass
  deriving DecidableEq, Repr

/-- `XdpContext`: the frame, and the address of its first byte. -/
structure XdpContext where
  data : Nat
  bytes : List UInt8
  deriving DecidableEq, Repr

/-- `ctx.data_end()`. -/
def XdpContext.dataEnd (ctx : XdpContext) : Nat :=
  ctx.data + ctx.bytes.length

/-- The arguments of the `info!` line of a drop. -/
structure DropLog where
  srcAddr : UInt32
  sourcePort : UInt16
  deriving DecidableEq, Repr

/-- What one run of the program leaves behind. -/
structure XdpState where
  stats : Stats
  /-- Every address dereferenced, in order. -/
  loads : List Nat
  log : List DropLog

/-- The program's `Result<_, ()>`, over the state it works on. -/
abbrev XdpM := ExceptT Unit (StateM XdpState)

-- ======================================================== the program

/-- `ptr_at::<T>`: the address of a `T` at `offset`, if the frame holds
all of it. -/
def ptrAt (ctx : XdpContext) (size offset : Nat) : XdpM Nat :=
  if ctx.data + offset + size > ctx.dataEnd then throw ()
  else pure (ctx.data + offset)

/-- One byte read through a pointer. -/
def deref (ctx : XdpContext) (addr : Nat) : XdpM UInt8 := do
  modify fun s => { s with loads := s.loads ++ [addr] }
  pure (ctx.bytes.getD (addr - ctx.data) 0)

/-- The source port of `try_rustguard`: the first two bytes behind the
fixed part of the IP header, once a whole transport header is there. -/
def sourcePort (nt : NetworkTypes) (ctx : XdpContext) :
    IpProto → XdpM UInt16
  | .tcp => do
      let tcphdr ← ptrAt ctx tcpHdrSize (ethHdrLen + ipv4HdrLen)
      return u16FromBeBytes (← deref ctx tcphdr) (← deref ctx (tcphdr + 1))
  | .udp => do
      let udphdr ← ptrAt ctx udpHdrSize (ethHdrLen + ipv4HdrLen)
      return nt.srcPort (← deref ctx udphdr) (← deref ctx (udphdr + 1))
  | .other _ => throw ()

/-- The ban is in force: permanent, or not over yet. -/
def BanValue.inForce (ban : BanValue) (now : Nat) : Bool :=
  ban.endTime = 0 ∨ now ≤ ban.endTime.toNat

/-- The ban lookup of `try_rustguard`. -/
def checkBan (bannedIps : BannedIps) (now : Nat) (srcAddr : UInt32)
    (port : UInt16) : XdpM XdpAction := do
  if let some ban := bannedIps.get? srcAddr then
    if ban.inForce now then
      -- `get_ptr_mut` finds nothing to write to unless key 0 is there
      modify fun s => { s with
        stats := s.stats.modify 0 fun stat =>
          { stat with packetsDropped := stat.packetsDropped + 1 }
        log := s.log ++ [⟨srcAddr, port⟩] }
      return .drop
  return .pass

/-- `try_rustguard`. -/
def tryRustguard (nt : NetworkTypes) (bannedIps : BannedIps) (ktime : Nat)
    (ctx : XdpContext) : XdpM XdpAction := do
  let ethhdr ← ptrAt ctx ethHdrLen 0
  let .ok .ipv4 := nt.etherType (← deref ctx (ethhdr + 12))
      (← deref ctx (ethhdr + 13))
    | return .pass
  let ipv4hdr ← ptrAt ctx ipv4HdrLen ethHdrLen
  let srcAddr := u32FromBeBytes (← deref ctx (ipv4hdr + 12))
    (← deref ctx (ipv4hdr + 13)) (← deref ctx (ipv4hdr + 14))
    (← deref ctx (ipv4hdr + 15))
  let .ok proto := nt.proto (← deref ctx (ipv4hdr + 9)) | throw ()
  let port ← sourcePort nt ctx proto
  checkBan bannedIps ktime srcAddr port

/-- `rustguard`: the verdict of a run, an `Err(())` aborting it. -/
def rustguard (nt : NetworkTypes) (bannedIps : BannedIps) (stats : Stats)
    (ktime : Nat) (ctx : XdpContext) : XdpAction × XdpState :=
  match (tryRustguard nt bannedIps ktime ctx).run ⟨stats, [], []⟩ with
  | (.ok ret, s) => (ret, s)
  | (.error _, s) => (.aborted, s)

end RustGuard
