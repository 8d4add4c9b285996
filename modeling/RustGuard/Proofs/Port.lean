/-
The port in the log line of a drop.

The program reads it at the fixed offset 34, fourteen bytes of Ethernet
and the twenty an IPv4 header has at least. The header says how long it
really is (`ihl`, in words of four bytes), and the program does not
look. Behind a header with options, the two bytes at 34 are the first
two option bytes, and the log line shows those: it names the right
address with a wrong port, in TCP and UDP alike.

Nothing else goes wrong: the bound checks are made for a shorter header
than the one that is there, so a well-formed frame passes them, and the
frame is dropped all the same. `logged_port_iff` says exactly when the
line is right.
-/
import RustGuard.Proofs.Verdict

namespace RustGuard

open Lib

-- ================================================== well-formed frames

namespace XdpContext

variable (ctx : XdpContext)

/-- The header length field: the low half of the first byte of the IP
header. -/
def ihl : Nat := (ctx.byte 14).toNat % 16

/-- Where the transport header begins. -/
def transportAt : Nat := 14 + 4 * ctx.ihl

/-- The source port of the transport header. -/
def transportPort : UInt16 :=
  u16FromBeBytes (ctx.byte ctx.transportAt) (ctx.byte (ctx.transportAt + 1))

/-- A well-formed IPv4 frame that carries the beginning of a TCP or UDP
packet: the header, options included, is all there, and so is the
transport header behind it. -/
structure WellFormed : Prop where
  ipv4 : ctx.IsIpv4
  version : (ctx.byte 14).toNat / 16 = 4
  ihl_ge : 5 ≤ ctx.ihl
  /-- Fragment offset 0, behind the three flags. -/
  fragment : (ctx.byte 20).toNat % 32 = 0 ∧ ctx.byte 21 = 0
  transport : (ctx.byte 23 = 6
      ∧ ctx.transportAt + tcpHdrSize ≤ ctx.bytes.length)
    ∨ (ctx.byte 23 = 17
      ∧ ctx.transportAt + udpHdrSize ≤ ctx.bytes.length)

end XdpContext

section Port

variable {ctx : XdpContext}

/-- The transport header begins behind the fixed part of the IP header,
and right there when there are no options. -/
theorem transportAt_eq_iff (h : 5 ≤ ctx.ihl) :
    34 ≤ ctx.transportAt ∧ (ctx.transportAt = 34 ↔ ctx.ihl = 5) := by
  unfold XdpContext.transportAt
  omega

/-- A well-formed frame passes every check of the program. -/
theorem XdpContext.WellFormed.complete (hwf : ctx.WellFormed) :
    ctx.Complete := by
  obtain ⟨hge, -⟩ := transportAt_eq_iff hwf.ihl_ge
  refine ⟨hwf.ipv4, ?_⟩
  rcases hwf.transport with ⟨hproto, hlen⟩ | ⟨hproto, hlen⟩
  · unfold tcpHdrSize at hlen
    exact Or.inl ⟨hproto, by omega⟩
  · unfold udpHdrSize at hlen
    exact Or.inr ⟨hproto, by omega⟩

/-- A drop logs the source and the two bytes at offset 34. -/
theorem rustguard_drop_log (nt : NetworkTypes) (bannedIps : BannedIps)
    (stats : Stats) (ktime : Nat) (hc : ctx.Complete)
    (hban : banned bannedIps ctx.srcAddr ktime = true) :
    (rustguard nt bannedIps stats ktime ctx).1 = .drop
      ∧ (rustguard nt bannedIps stats ktime ctx).2.log
        = [⟨ctx.srcAddr, ctx.port⟩] := by
  have hverdict : (rustguard nt bannedIps stats ktime ctx).1 = .drop := by
    rw [rustguard_verdict, verdict_drop_iff]
    exact ⟨hc, hban⟩
  refine ⟨hverdict, ?_⟩
  have hpath := rustguard_path nt bannedIps stats ktime ctx
  generalize rustguard nt bannedIps stats ktime ctx = r at hpath hverdict ⊢
  cases hpath with
  | drop hlen hc hban => rfl
  | noEthernet hlen => cases hverdict
  | notIpv4 hlen hip => cases hverdict
  | noIpv4Hdr hlen hip hshort => cases hverdict
  | noTransport hlen hip htr => cases hverdict
  | pass hlen hc hban => cases hverdict

/-- A well-formed frame from a source under a ban in force is dropped,
and the port in its log line is the one of its transport header exactly
when it has no IP options, or its first two option bytes happen to be
that port. -/
theorem logged_port_iff (nt : NetworkTypes) (bannedIps : BannedIps)
    (stats : Stats) (ktime : Nat) (hwf : ctx.WellFormed)
    (hban : banned bannedIps ctx.srcAddr ktime = true) :
    ((rustguard nt bannedIps stats ktime ctx).1 = .drop
      ∧ ∃ line, (rustguard nt bannedIps stats ktime ctx).2.log = [line]
        ∧ line.srcAddr = ctx.srcAddr
        ∧ line.sourcePort = ctx.transportPort)
    ↔ ctx.ihl = 5 ∨ (ctx.byte 34 = ctx.byte ctx.transportAt
        ∧ ctx.byte 35 = ctx.byte (ctx.transportAt + 1)) := by
  obtain ⟨hdrop, hlog⟩ :=
    rustguard_drop_log nt bannedIps stats ktime hwf.complete hban
  obtain ⟨-, hat⟩ := transportAt_eq_iff hwf.ihl_ge
  have hport : ctx.port = ctx.transportPort
      ↔ ctx.byte 34 = ctx.byte ctx.transportAt
        ∧ ctx.byte 35 = ctx.byte (ctx.transportAt + 1) :=
    u16FromBeBytes_inj
  rw [hlog]
  constructor
  · intro ⟨_, line, hline, _, hright⟩
    obtain rfl := List.singleton_inj.mp hline
    exact Or.inr (hport.mp hright)
  · intro h
    refine ⟨hdrop, _, rfl, rfl, hport.mpr ?_⟩
    rcases h with hihl | hbytes
    · rw [hat.mpr hihl]
      exact ⟨rfl, rfl⟩
    · exact hbytes

end Port

/-- A TCP frame from `10.0.0.1:443` to port 80, with these IP options. -/
def frameWith (options : List UInt8) : XdpContext where
  data := 4096
  bytes := List.replicate 12 0 ++ [0x08, 0x00]
    ++ [UInt8.ofNat (0x45 + options.length / 4), 0, 0,
      UInt8.ofNat (40 + options.length), 0, 0, 0, 0, 64, 6, 0, 0,
      10, 0, 0, 1, 192, 168, 0, 2]
    ++ options ++ [0x01, 0xBB, 0, 80] ++ List.replicate 8 0
    ++ [0x50, 0x02] ++ List.replicate 6 0

/-- `10.0.0.1`, banned for good. -/
def oneBanned : BannedIps :=
  (BoundedMap.empty.insert (Ipv4Addr.toU32 ⟨10, 0, 0, 1⟩) ⟨0⟩).1

theorem logged_port_plain :
    (rustguard networkTypes oneBanned .empty 7 (frameWith [])).1 = .drop
      ∧ ∃ line, (rustguard networkTypes oneBanned .empty 7
          (frameWith [])).2.log = [line]
        ∧ line.srcAddr = (frameWith []).srcAddr
        ∧ line.sourcePort = (frameWith []).transportPort :=
  (logged_port_iff networkTypes oneBanned .empty 7
    ⟨by decide, by decide, by decide, by decide, by decide⟩
    (by decide)).mpr (Or.inl (by decide))

/-- Three no-operations and an end of options are logged as port 257. -/
theorem options_logged_as_port :
    (frameWith [1, 1, 1, 0]).WellFormed
      ∧ banned oneBanned (frameWith [1, 1, 1, 0]).srcAddr 7 = true
      ∧ (frameWith [1, 1, 1, 0]).transportPort = 443
      ∧ (rustguard networkTypes oneBanned .empty 7
          (frameWith [1, 1, 1, 0])).2.log
        = [⟨(frameWith [1, 1, 1, 0]).srcAddr, 257⟩] :=
  ⟨⟨by decide, by decide, by decide, by decide, by decide⟩,
    by decide, by decide, by decide⟩

end RustGuard
