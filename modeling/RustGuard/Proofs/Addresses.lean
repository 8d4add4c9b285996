/-
What the monitor shows of a socket's two ends, against what they are.

# The reading that is right

For an event that `fill_ipv4` filled, the last twelve bytes are zero and
the monitor reads the first four: the dotted quad. For one that
`fill_ipv6` filled, it reads the sixteen bytes as an IPv6 address, an
IPv4-mapped one as the IPv4 address it maps. Either way the text is that
of the socket's own address in canonical form, on either byte order; and
what is shown of an IPv4 peer can be typed back into `ban`
(`shown_peer_bans`).

# The reading that is wrong

The first test is made on every event, and an IPv6 address may well end
in twelve zero bytes: `::`, which every unbound socket has, or a prefix
written as an address, like `2001:db8::`. Such an address is shown as
the dotted quad of its first four bytes, as though it were an IPv4
address nobody was talking to. `endpoints_faithful_iff` says that this
is the only way to go wrong: the ends of any sockets are shown in their
standard text, and no two different ones alike, exactly when none of the
IPv6 addresses among them ends in twelve zero bytes.
-/
import RustGuard.Monitor
import RustGuard.Proofs.Dispatch

namespace RustGuard

open Lib

-- ======================================================= the socket's own

/-- The two ends of a socket: the local one and the peer. -/
inductive Side
  | src
  | dst
  deriving DecidableEq, Repr

/-- A `sock_common` of one of the two families. -/
structure InetCommon extends SockCommon where
  inet : skcFamily = afInet ∨ skcFamily = afInet6

/-- Four octets as they lie in memory, as an address. -/
def ofOctets (os : Vector UInt8 4) : Ipv4Addr :=
  ⟨os.get 0, os.get 1, os.get 2, os.get 3⟩

namespace SockCommon

variable (e : Endian) (common : SockCommon)

/-- The address word of an end. -/
def v4Word : Side → UInt32
  | .src => common.skcRcvSaddr
  | .dst => common.skcDaddr

/-- The IPv6 address of an end. -/
def v6Bytes : Side → Bytes16
  | .src => common.skcV6RcvSaddr
  | .dst => common.skcV6Daddr

/-- The socket's own address: by its family, the octets in memory. -/
def address (side : Side) : IpAddr :=
  if common.skcFamily = afInet then
    .v4 (ofOctets (u32ToNeBytes e (common.v4Word side)))
  else .v6 ⟨common.v6Bytes side⟩

/-- The port in host order: the peer's is stored in network order. -/
def port : Side → UInt16
  | .src => common.skcNum
  | .dst => u16FromBeBytes ((u16ToNeBytes e common.skcDport).get 0)
      ((u16ToNeBytes e common.skcDport).get 1)

/-- The standard text of an end: its address, an IPv4-mapped one as
IPv4, and its port. -/
def standard (side : Side) : String :=
  (common.address e side).toCanonical.toText ++ ":"
    ++ Nat.repr (common.port e side).toNat

/-- A socket has one family. -/
theorem not_inet {common : SockCommon} (h : common.skcFamily = afInet6) :
    ¬ common.skcFamily = afInet := by
  rw [h]
  decide

end SockCommon

/-- The last twelve bytes of an address field are zero. -/
def EndsInZeros (ip : Bytes16) : Prop := (ip.toList.drop 4).all (· == 0) = true

instance (ip : Bytes16) : Decidable (EndsInZeros ip) :=
  inferInstanceAs (Decidable (_ = true))

/-- No IPv6 address of the socket ends in twelve zero bytes. -/
def SockCommon.Tellable (common : SockCommon) : Prop :=
  common.skcFamily = afInet6 → ∀ side, ¬ EndsInZeros (common.v6Bytes side)

/-- An end as `print_event` builds it. -/
def NetEvent.shown (event : NetEvent) : Side → String
  | .src => endpoint event.srcIp event.srcPort
  | .dst => endpoint event.dstIp event.dstPort

-- ===================================================== the two layouts

/-- The field of an end. -/
def NetEvent.ip (event : NetEvent) : Side → Bytes16
  | .src => event.srcIp
  | .dst => event.dstIp

/-- What `fill_socket` leaves of a socket of either family: its fields,
in the layout of its family, and its ports. -/
theorem fillSocket_inet (e : Endian) (event : NetEvent) (sk : Sock)
    (common : InetCommon) (hsk : sk.skCommon = .ok common.toSockCommon) :
    ∃ event', fillSocket e event sk = .ok event'
      ∧ (∀ side, event'.ip side
        = if common.skcFamily = afInet then
            frontOctets (u32ToNeBytes e (common.v4Word side))
          else common.v6Bytes side)
      ∧ (∀ side, event'.shown side
        = endpoint (event'.ip side) (common.port e side)) := by
  unfold fillSocket
  rw [hsk]
  by_cases hinet : common.skcFamily = afInet
  · refine ⟨fillIpv4 e event common.toSockCommon, ?_, ?_, ?_⟩
    · exact if_pos hinet
    · intro side
      rw [if_pos hinet]
      cases side <;> rfl
    · intro side
      cases side with
      | src => rfl
      | dst =>
          rw [SockCommon.port, ← u16FromBe_eq]
          rfl
  · have hinet6 := common.inet.resolve_left hinet
    refine ⟨fillIpv6 e event common.toSockCommon, ?_, ?_, ?_⟩
    · exact (if_neg hinet).trans (if_pos hinet6)
    · intro side
      rw [if_neg hinet]
      cases side <;> rfl
    · intro side
      cases side with
      | src => rfl
      | dst =>
          rw [SockCommon.port, ← u16FromBe_eq]
          rfl

-- ========================================================= ip_to_string

/-- A field that ends in zeros is read as an IPv4 address. -/
theorem ipToString_of_zeros {ip : Bytes16} (hz : EndsInZeros ip) :
    ipToString ip
      = (IpAddr.v4 ⟨ip.get 0, ip.get 1, ip.get 2, ip.get 3⟩).toText :=
  if_pos hz

/-- One that does not is read as the IPv6 address it is, in canonical
form. -/
theorem ipToString_of_not_zeros {ip : Bytes16} (hz : ¬ EndsInZeros ip) :
    ipToString ip = (IpAddr.v6 ⟨ip⟩).toCanonical.toText := by
  have hskip : ipToString ip = if (ip.toList.take 10).all (· == 0)
      ∧ ip.get 10 = 0xff ∧ ip.get 11 = 0xff then
        (IpAddr.v4 ⟨ip.get 12, ip.get 13, ip.get 14, ip.get 15⟩).toText
      else (IpAddr.v6 ⟨ip⟩).toText := if_neg hz
  rw [hskip]
  split
  · rename_i hmapped
    have hsome : Ipv6Addr.toIpv4Mapped ⟨ip⟩
        = some ⟨ip.get 12, ip.get 13, ip.get 14, ip.get 15⟩ :=
      (Ipv6Addr.toIpv4Mapped_eq ⟨ip⟩).trans (if_pos hmapped)
    rw [IpAddr.toCanonical, hsome]
    rfl
  · rename_i hmapped
    have hnone : Ipv6Addr.toIpv4Mapped ⟨ip⟩ = none :=
      (Ipv6Addr.toIpv4Mapped_eq ⟨ip⟩).trans (if_neg hmapped)
    rw [IpAddr.toCanonical, hnone]
    rfl

/-- The front layout, octet by octet. -/
theorem frontOctets_eq (os : Vector UInt8 4) :
    frontOctets os = #v[os.get 0, os.get 1, os.get 2, os.get 3,
      0, 0, 0, 0, 0, 0, 0, 0, 0, 0, 0, 0] := by
  obtain ⟨⟨os⟩, hos⟩ := os
  rw [List.size_toArray] at hos
  match os, hos with
  | [a, b, c, d], _ => rfl

/-- An address in the front layout is read as what it is. -/
theorem ipToString_frontOctets (os : Vector UInt8 4) :
    ipToString (frontOctets os) = (ofOctets os).toText := by
  have hz : EndsInZeros (frontOctets os) := by
    rw [frontOctets_eq]
    rfl
  rw [ipToString_of_zeros hz, frontOctets_eq]
  rfl

/-- An IPv6 address that ends in zeros maps no IPv4 address. -/
theorem isCanonical_of_zeros {ip : Bytes16} (hz : EndsInZeros ip) :
    (IpAddr.v6 ⟨ip⟩).IsCanonical := by
  rw [IpAddr.isCanonical_v6, Ipv6Addr.toIpv4Mapped_eq, if_neg]
  intro hmapped
  have h10 : ip.get 10 = 0 := by
    unfold EndsInZeros at hz
    rw [List.all_eq_true] at hz
    have hmem : ip.get 10 ∈ ip.toList.drop 4 :=
      List.mem_drop_iff_getElem.mpr ⟨6, by simp, rfl⟩
    exact beq_iff_eq.mp (hz _ hmem)
  rw [h10] at hmapped
  exact absurd hmapped.2.1 (by decide)

-- ===================================================== what is shown

/-- A socket a hook looked at: the event so far, and the `sock_common`
the probe read. -/
structure Seen where
  event : NetEvent
  sk : Sock
  common : InetCommon
  probed : sk.skCommon = .ok common.toSockCommon

/-- An end of it, as the monitor shows it. -/
def Seen.shown (e : Endian) (s : Seen) (side : Side) : Except Int64 String :=
  (fillSocket e s.event s.sk).map (·.shown side)

section Shown

variable {e : Endian}

/-- The text shown, by what the bytes of the field are. -/
theorem shown_eq (s : Seen) (side : Side) :
    s.shown e side = .ok
      ((if s.common.skcFamily = afInet6
          ∧ EndsInZeros (s.common.v6Bytes side) then
          ipToString (s.common.v6Bytes side)
        else (s.common.address e side).toCanonical.toText)
        ++ ":" ++ Nat.repr (s.common.port e side).toNat) := by
  obtain ⟨event', hfill, hip, hshown⟩ :=
    fillSocket_inet e s.event s.sk s.common s.probed
  have hok : s.shown e side = .ok (event'.shown side) := by
    rw [Seen.shown, hfill]
    rfl
  rw [hok, hshown, hip, endpoint]
  congr 3
  by_cases hinet : s.common.skcFamily = afInet
  · rw [if_pos hinet, if_neg (fun h => SockCommon.not_inet h.1 hinet),
      ipToString_frontOctets, SockCommon.address, if_pos hinet]
    rfl
  · have hinet6 := s.common.inet.resolve_left hinet
    rw [if_neg hinet, SockCommon.address, if_neg hinet]
    by_cases hz : EndsInZeros (s.common.v6Bytes side)
    · rw [if_pos ⟨hinet6, hz⟩]
    · rw [if_neg (fun h => hz h.2), ipToString_of_not_zeros hz]

/-- An end is shown in its standard text unless it is an IPv6 address
that ends in zeros. -/
theorem shown_standard_iff (s : Seen) (side : Side) :
    s.shown e side = .ok (s.common.standard e side)
      ↔ ¬ (s.common.skcFamily = afInet6
          ∧ EndsInZeros (s.common.v6Bytes side)) := by
  rw [shown_eq, SockCommon.standard, Except.ok.injEq]
  by_cases hbad : s.common.skcFamily = afInet6
      ∧ EndsInZeros (s.common.v6Bytes side)
  · -- a dotted quad where an IPv6 text should be
    rw [if_pos hbad]
    refine iff_of_false ?_ (not_not_intro hbad)
    obtain ⟨hinet6, hz⟩ := hbad
    have hcan := isCanonical_of_zeros hz
    rw [SockCommon.address, if_neg (SockCommon.not_inet hinet6), hcan,
      ipToString_of_zeros hz]
    intro heq
    have := (IpAddr.toText_port_inj (IpAddr.isCanonical_v4 _) hcan heq).1
    simp at this
  · rw [if_neg hbad]
    exact iff_of_true rfl hbad

/-- No two ends have the same standard text. -/
theorem standard_inj {common common' : SockCommon} {side side' : Side}
    (h : common.standard e side = common'.standard e side') :
    (common.address e side).toCanonical
        = (common'.address e side').toCanonical
      ∧ common.port e side = common'.port e side' := by
  obtain ⟨haddr, hport⟩ := IpAddr.toText_port_inj
    (IpAddr.isCanonical_toCanonical _) (IpAddr.isCanonical_toCanonical _) h
  exact ⟨haddr, UInt16.toNat_inj.mp hport⟩

end Shown

/-- For any sockets: all their ends are shown in their standard text, and
no two different ends alike, exactly when no IPv6 address among them ends
in twelve zero bytes. -/
theorem endpoints_faithful_iff (e : Endian) (seen : Set Seen) :
    ((∀ s ∈ seen, ∀ side, s.shown e side = .ok (s.common.standard e side))
      ∧ (∀ s ∈ seen, ∀ s' ∈ seen, ∀ side side',
        s.shown e side = s'.shown e side' →
        (s.common.address e side).toCanonical
            = (s'.common.address e side').toCanonical
          ∧ s.common.port e side = s'.common.port e side'))
    ↔ ∀ s ∈ seen, s.common.Tellable := by
  constructor
  · intro ⟨hstandard, _⟩ s hs hinet6 side hz
    exact (shown_standard_iff s side).mp (hstandard s hs side) ⟨hinet6, hz⟩
  · intro htell
    have hstandard : ∀ s ∈ seen, ∀ side,
        s.shown e side = .ok (s.common.standard e side) := by
      intro s hs side
      exact (shown_standard_iff s side).mpr fun h => htell s hs h.1 side h.2
    refine ⟨hstandard, ?_⟩
    intro s hs s' hs' side side' heq
    rw [hstandard s hs, hstandard s' hs', Except.ok.injEq] at heq
    exact standard_inj heq

/-- A connection from `32.1.13.184`, accepted by a host on
`10.0.0.1:22`. -/
def quadPeer : Seen where
  event := {}
  sk := ⟨0, .ok ⟨afInet, 0x0100000A, 0xB80D0120, Vector.replicate 16 0,
    Vector.replicate 16 0, 22, 0xBB01⟩, .ok ipprotoTcp⟩
  common := ⟨⟨afInet, 0x0100000A, 0xB80D0120, Vector.replicate 16 0,
    Vector.replicate 16 0, 22, 0xBB01⟩, Or.inl rfl⟩
  probed := rfl

/-- One from `2001:db8::`, accepted on `2001:db8::1`. -/
def prefixPeer : Seen where
  event := {}
  sk := ⟨0, .ok ⟨afInet6, 0, 0,
    #v[0x20, 0x01, 0x0d, 0xb8, 0, 0, 0, 0, 0, 0, 0, 0, 0, 0, 0, 1],
    #v[0x20, 0x01, 0x0d, 0xb8, 0, 0, 0, 0, 0, 0, 0, 0, 0, 0, 0, 0],
    22, 0xBB01⟩, .ok ipprotoTcp⟩
  common := ⟨⟨afInet6, 0, 0,
    #v[0x20, 0x01, 0x0d, 0xb8, 0, 0, 0, 0, 0, 0, 0, 0, 0, 0, 0, 1],
    #v[0x20, 0x01, 0x0d, 0xb8, 0, 0, 0, 0, 0, 0, 0, 0, 0, 0, 0, 0],
    22, 0xBB01⟩, Or.inr rfl⟩
  probed := rfl

/-- The two peers have different addresses and one text. -/
theorem prefix_peer_shown_as_quad :
    prefixPeer.shown .little .dst = .ok "32.1.13.184:443"
      ∧ prefixPeer.common.standard .little .dst = "2001:db8:::443"
      ∧ quadPeer.shown .little .dst = prefixPeer.shown .little .dst
      ∧ (quadPeer.common.address .little .dst).toCanonical
        ≠ (prefixPeer.common.address .little .dst).toCanonical :=
  ⟨by rfl, by decide, by rfl, by decide⟩

-- ================================================ from the line to a ban

/-- The peer is the IPv4 address: under either family. -/
def SockCommon.HasPeer (e : Endian) (common : SockCommon) (ip : Ipv4Addr) :
    Prop :=
  (common.skcFamily = afInet
      ∧ u32ToNeBytes e common.skcDaddr = #v[ip.a, ip.b, ip.c, ip.d])
    ∨ (common.skcFamily = afInet6
      ∧ common.skcV6Daddr = #v[0, 0, 0, 0, 0, 0, 0, 0, 0, 0, 0xff, 0xff,
        ip.a, ip.b, ip.c, ip.d])

/-- The monitor shows such a peer as the dotted quad. -/
theorem ipToString_peer {e : Endian} {ip : Ipv4Addr} {s : Seen}
    (hpeer : s.common.HasPeer e ip) :
    ∃ event', fillSocket e s.event s.sk = .ok event'
      ∧ ipToString event'.dstIp = ip.toText := by
  obtain ⟨event', hfill, hip, -⟩ :=
    fillSocket_inet e s.event s.sk s.common s.probed
  refine ⟨event', hfill, ?_⟩
  have hdst : event'.dstIp = _ := hip .dst
  rw [hdst]
  rcases hpeer with ⟨hinet, hword⟩ | ⟨hinet6, hbytes⟩
  · rw [if_pos hinet, ipToString_frontOctets, SockCommon.v4Word, hword]
    rfl
  · rw [if_neg (SockCommon.not_inet hinet6), SockCommon.v6Bytes, hbytes]
    rfl

/-- The program looks a frame up under `key`, whatever the maps. -/
def XdpContext.LooksUp (nt : NetworkTypes) (ctx : XdpContext)
    (key : UInt32) : Prop :=
  ∃ loads, ∀ (bannedIps : BannedIps) (stats : Stats) (ktime : Nat),
    (tryRustguard nt bannedIps ktime ctx).run ⟨stats, [], []⟩
      = (checkBan bannedIps ktime key ctx.port).run ⟨stats, loads, []⟩

theorem looksUp_srcAddr (nt : NetworkTypes) {ctx : XdpContext}
    (hc : ctx.Complete) : ctx.LooksUp nt ctx.srcAddr := by
  have hlen := hc.length_ge
  refine ⟨ipv4Loads ctx ++ [ctx.data + 34] ++ [ctx.data + 35], ?_⟩
  intro bannedIps stats ktime
  rw [tryRustguard_run, if_neg (by omega), if_neg (not_not_intro hc.1),
    if_neg (by omega), if_neg (not_not_intro hc.2)]

/-- What the monitor shows of an IPv4 peer, sent as the target of a ban,
bans that peer: it parses, and the key it is stored under is the one the
XDP program reads off the frames of that address and of no other. -/
theorem shown_peer_bans (e : Endian) (ip : Ipv4Addr) (s : Seen)
    (hpeer : s.common.HasPeer e ip) :
    ∃ event', fillSocket e s.event s.sk = .ok event'
      ∧ Ipv4Addr.fromStr (ipToString event'.dstIp) = some ip
      ∧ (∀ (g : Guard) (utc : Option Int64) (ttl : Option UInt64),
        dispatch g utc (.ban (ipToString event'.dstIp) ttl)
          = ({ g with bannedIps := (g.bannedIps.insert ip.toU32
                ⟨endTime (getBootTimeNs utc) ttl⟩).1 }, .ok))
      ∧ (∀ (nt : NetworkTypes) (ctx : XdpContext), ctx.Complete →
        ctx.LooksUp nt ctx.srcAddr)
      ∧ (∀ ctx : XdpContext, ctx.srcAddr = ip.toU32 ↔ ctx.source = ip) := by
  obtain ⟨event', hfill, htext⟩ := ipToString_peer hpeer
  have hparse : Ipv4Addr.fromStr (ipToString event'.dstIp) = some ip := by
    rw [htext, Ipv4Addr.fromStr_toText]
  refine ⟨event', hfill, hparse, ?_, ?_, ?_⟩
  · intro g utc ttl
    exact dispatch_ban hparse
  · intro nt ctx hc
    exact looksUp_srcAddr nt hc
  · intro ctx
    rw [srcAddr_eq]
    exact Ipv4Addr.toU32_injective.eq_iff

/-- The same peer, accepted on an IPv6 socket. -/
def mappedPeer : Seen where
  event := {}
  sk := ⟨0, .ok ⟨afInet6, 0, 0,
    #v[0, 0, 0, 0, 0, 0, 0, 0, 0, 0, 0xff, 0xff, 10, 0, 0, 1],
    #v[0, 0, 0, 0, 0, 0, 0, 0, 0, 0, 0xff, 0xff, 32, 1, 13, 184],
    22, 0xBB01⟩, .ok ipprotoTcp⟩
  common := ⟨⟨afInet6, 0, 0,
    #v[0, 0, 0, 0, 0, 0, 0, 0, 0, 0, 0xff, 0xff, 10, 0, 0, 1],
    #v[0, 0, 0, 0, 0, 0, 0, 0, 0, 0, 0xff, 0xff, 32, 1, 13, 184],
    22, 0xBB01⟩, Or.inr rfl⟩
  probed := rfl

/-- On an IPv4 socket of a little-endian host, and on an IPv6 socket of a
big-endian one. -/
theorem shown_peer_bans_quad :
    (∃ event', fillSocket .little quadPeer.event quadPeer.sk = .ok event'
      ∧ Ipv4Addr.fromStr (ipToString event'.dstIp)
        = some ⟨32, 1, 13, 184⟩)
    ∧ ∃ event', fillSocket .big mappedPeer.event mappedPeer.sk = .ok event'
      ∧ Ipv4Addr.fromStr (ipToString event'.dstIp)
        = some ⟨32, 1, 13, 184⟩ := by
  obtain ⟨event', hfill, hparse, -⟩ := shown_peer_bans .little
    ⟨32, 1, 13, 184⟩ quadPeer (Or.inl ⟨rfl, by decide⟩)
  obtain ⟨mapped, hmapped, hparse', -⟩ := shown_peer_bans .big
    ⟨32, 1, 13, 184⟩ mappedPeer (Or.inr ⟨rfl, rfl⟩)
  exact ⟨⟨event', hfill, hparse⟩, mapped, hmapped, hparse'⟩

end RustGuard
