/-
The XDP program, path by path: every frame, of any length and content,
goes down exactly one of six paths (`tryRustguard_run`), and each path
fixes the verdict, the addresses read, the counter and the log.

# The shape of the answer

`verdict` is the program with the plumbing removed. Reading it top down:

- a frame with no Ethernet header aborts;
- a frame of another protocol passes;
- an IPv4 frame with no complete TCP or UDP header at offset 34 aborts,
  WHOEVER SENT IT;
- only then is the source address looked up.

The third line is where the firewall discards traffic nobody banned:
ICMP, IGMP, every tunnel protocol, and any TCP or UDP packet that is too
short. `unbanned_pass_iff` says exactly which frames of an address with
no ban in force get through. The same line is why the order of the checks
is no way around a ban: an in-force ban turns into a drop or an abort
and never into a pass (`no_evasion`).
-/
import RustGuard.Xdp
import RustGuard.Lib.Ipv4

namespace RustGuard

open Lib

-- ========================================== a frame, field by field

/-- Byte `i` of the frame; 0 behind its end. -/
def XdpContext.byte (ctx : XdpContext) (i : Nat) : UInt8 :=
  ctx.bytes.getD i 0

/-- The source address of a frame: bytes 26 to 29. -/
def XdpContext.source (ctx : XdpContext) : Ipv4Addr :=
  ⟨ctx.byte 26, ctx.byte 27, ctx.byte 28, ctx.byte 29⟩

/-- The source address, as the key of `BANNED_IPS`. -/
def XdpContext.srcAddr (ctx : XdpContext) : UInt32 :=
  u32FromBeBytes (ctx.byte 26) (ctx.byte 27) (ctx.byte 28) (ctx.byte 29)

/-- The key the program reads off a frame is the key of its source. -/
theorem srcAddr_eq (ctx : XdpContext) : ctx.srcAddr = ctx.source.toU32 := rfl

/-- The two bytes at offset 34, as a port. -/
def XdpContext.port (ctx : XdpContext) : UInt16 :=
  u16FromBeBytes (ctx.byte 34) (ctx.byte 35)

/-- The ethertype is 0x0800. -/
def XdpContext.IsIpv4 (ctx : XdpContext) : Prop :=
  ctx.byte 12 = 0x08 ∧ ctx.byte 13 = 0x00

/-- The frame is long enough for a TCP or UDP header at offset 34, and
says that it carries one. -/
def XdpContext.HasTransport (ctx : XdpContext) : Prop :=
  (ctx.byte 23 = 6 ∧ 54 ≤ ctx.bytes.length)
    ∨ (ctx.byte 23 = 17 ∧ 42 ≤ ctx.bytes.length)

/-- A complete frame: IPv4, with TCP or UDP at offset 34. -/
def XdpContext.Complete (ctx : XdpContext) : Prop :=
  ctx.IsIpv4 ∧ ctx.HasTransport

instance (ctx : XdpContext) : Decidable ctx.IsIpv4 :=
  inferInstanceAs (Decidable (_ ∧ _))

instance (ctx : XdpContext) : Decidable ctx.HasTransport :=
  inferInstanceAs (Decidable (_ ∨ _))

instance (ctx : XdpContext) : Decidable ctx.Complete :=
  inferInstanceAs (Decidable (_ ∧ _))

/-- The address has a ban in force at `now`. -/
def banned (bannedIps : BannedIps) (srcAddr : UInt32) (now : Nat) : Bool :=
  (bannedIps.get? srcAddr).any (·.inForce now)

/-- The program without its plumbing: what it answers. -/
def verdict (bannedIps : BannedIps) (ktime : Nat) (ctx : XdpContext) :
    XdpAction :=
  if ctx.bytes.length < 14 then .aborted
  else if ¬ ctx.IsIpv4 then .pass
  else if ¬ ctx.HasTransport then .aborted
  else if banned bannedIps ctx.srcAddr ktime then .drop
  else .pass

/-- `packets_dropped.wrapping_add(1)`, where there is a counter. -/
def countDrop (stats : Stats) : Stats :=
  stats.modify 0 fun stat =>
    { stat with packetsDropped := stat.packetsDropped + 1 }

-- ====================================================== bans in force

/-- A ban is in force when it has no end, or the end is not past. -/
theorem inForce_iff (ban : BanValue) (now : Nat) :
    ban.inForce now = true
      ↔ ban.endTime = 0 ∨ now ≤ ban.endTime.toNat := by
  rw [BanValue.inForce, decide_eq_true_iff]

/-- And is over otherwise. -/
theorem inForce_eq_false_iff (ban : BanValue) (now : Nat) :
    ban.inForce now = false
      ↔ ban.endTime ≠ 0 ∧ ban.endTime.toNat < now := by
  rw [← Bool.not_eq_true, inForce_iff, not_or, Nat.not_le]

/-- No end, as a number. -/
theorem toNat_eq_zero_iff (endTime : UInt64) :
    endTime.toNat = 0 ↔ endTime = 0 := by
  rw [← UInt64.toNat_inj]
  rfl

-- ================================================ the monad, unfolded

/-- A pointer inside the frame: the run goes on at its address. -/
theorem ptrAt_bind_ok {α : Type} {ctx : XdpContext} {size offset : Nat}
    (f : Nat → XdpM α) (s : XdpState)
    (h : offset + size ≤ ctx.bytes.length) :
    (ptrAt ctx size offset >>= f).run s = (f (ctx.data + offset)).run s := by
  have hend : ctx.dataEnd = ctx.data + ctx.bytes.length := rfl
  rw [ptrAt, if_neg (by omega)]
  rfl

/-- A pointer out of the frame: the run ends in `Err(())`. -/
theorem ptrAt_bind_err {α : Type} {ctx : XdpContext} {size offset : Nat}
    (f : Nat → XdpM α) (s : XdpState)
    (h : ctx.bytes.length < offset + size) :
    (ptrAt ctx size offset >>= f).run s = (.error (), s) := by
  have hend : ctx.dataEnd = ctx.data + ctx.bytes.length := rfl
  rw [ptrAt, if_pos (by omega)]
  rfl

/-- A dereference records its address and gives the byte. -/
theorem deref_bind {α : Type} {ctx : XdpContext} {addr i : Nat}
    (haddr : addr = ctx.data + i) (f : UInt8 → XdpM α) (s : XdpState) :
    (deref ctx addr >>= f).run s
      = (f (ctx.byte i)).run { s with loads := s.loads ++ [addr] } := by
  rw [haddr, deref, Nat.add_sub_cancel_left]
  rfl

/-- The two branches of `sourcePort` differ in the header size and in
the function that reads the port. -/
private theorem readPort_bind {α : Type} {ctx : XdpContext}
    (size : Nat) (port : UInt8 → UInt8 → UInt16) (f : UInt16 → XdpM α)
    (s : XdpState) :
    ((do let hdr ← ptrAt ctx size (ethHdrLen + ipv4HdrLen)
         return port (← deref ctx hdr) (← deref ctx (hdr + 1)))
        >>= f).run s
      = if 34 + size ≤ ctx.bytes.length then
          (f (port (ctx.byte 34) (ctx.byte 35))).run { s with
            loads := s.loads ++ [ctx.data + 34] ++ [ctx.data + 35] }
        else (.error (), s) := by
  have h34 : ethHdrLen + ipv4HdrLen = 34 := rfl
  rw [h34, bind_assoc]
  by_cases hlen : 34 + size ≤ ctx.bytes.length
  · rw [if_pos hlen, ptrAt_bind_ok _ _ hlen, bind_assoc,
      deref_bind (i := 34) rfl, bind_assoc,
      deref_bind (i := 35) (Nat.add_assoc ..)]
    rfl
  · rw [if_neg hlen, ptrAt_bind_err _ _ (Nat.lt_of_not_le hlen)]

/-- The transport header decides whether the run goes on. -/
theorem sourcePort_bind {α : Type} {nt : NetworkTypes} {ctx : XdpContext}
    {proto : IpProto} (hproto : nt.proto (ctx.byte 23) = .ok proto)
    (f : UInt16 → XdpM α) (s : XdpState) :
    (sourcePort nt ctx proto >>= f).run s
      = if ctx.HasTransport then
          (f ctx.port).run { s with
            loads := s.loads ++ [ctx.data + 34] ++ [ctx.data + 35] }
        else (.error (), s) := by
  have htcp := nt.proto_tcp (ctx.byte 23)
  have hudp := nt.proto_udp (ctx.byte 23)
  rw [hproto] at htcp hudp
  cases proto with
  | tcp =>
      have h6 : ctx.byte 23 = 6 := htcp.mp rfl
      have hiff : ctx.HasTransport ↔ 34 + tcpHdrSize ≤ ctx.bytes.length := by
        simp [XdpContext.HasTransport, h6, tcpHdrSize]
      rw [sourcePort, readPort_bind, if_congr hiff rfl rfl]
      rfl
  | udp =>
      have h17 : ctx.byte 23 = 17 := hudp.mp rfl
      have hiff : ctx.HasTransport ↔ 34 + udpHdrSize ≤ ctx.bytes.length := by
        simp [XdpContext.HasTransport, h17, udpHdrSize]
      rw [sourcePort, readPort_bind, if_congr hiff rfl rfl, nt.srcPort_eq]
      rfl
  | other raw =>
      have h6 : ctx.byte 23 ≠ 6 := fun h => nomatch htcp.mpr h
      have h17 : ctx.byte 23 ≠ 17 := fun h => nomatch hudp.mpr h
      rw [if_neg (fun h => h.elim (fun h => h6 h.1) fun h => h17 h.1)]
      rfl

/-- The ban lookup: a drop is counted and logged, a pass leaves no
trace. -/
theorem checkBan_run (bannedIps : BannedIps) (now : Nat)
    (srcAddr : UInt32) (port : UInt16) (s : XdpState) :
    (checkBan bannedIps now srcAddr port).run s
      = if banned bannedIps srcAddr now then
          (.ok .drop, { s with
            stats := countDrop s.stats
            log := s.log ++ [⟨srcAddr, port⟩] })
        else (.ok .pass, s) := by
  unfold checkBan banned
  cases hget : bannedIps.get? srcAddr with
  | none => rfl
  | some ban =>
      cases hforce : ban.inForce now with
      | false =>
          simp only [hforce, Option.any_some, Bool.false_eq_true, if_false]
          rfl
      | true =>
          simp only [hforce, Option.any_some, if_true]
          rfl

-- ======================================================== the six paths

/-- The bytes every IPv4 frame is asked for, in the order they are. -/
def ipv4Loads (ctx : XdpContext) : List Nat :=
  [ctx.data + 12, ctx.data + 13, ctx.data + 26, ctx.data + 27,
    ctx.data + 28, ctx.data + 29, ctx.data + 23]

/-- `try_rustguard` on every frame. -/
theorem tryRustguard_run (nt : NetworkTypes) (bannedIps : BannedIps)
    (stats : Stats) (ktime : Nat) (ctx : XdpContext) :
    (tryRustguard nt bannedIps ktime ctx).run ⟨stats, [], []⟩
      = if ctx.bytes.length < 14 then (.error (), ⟨stats, [], []⟩)
        else if ¬ ctx.IsIpv4 then
          (.ok .pass, ⟨stats, [ctx.data + 12, ctx.data + 13], []⟩)
        else if ctx.bytes.length < 34 then
          (.error (), ⟨stats, [ctx.data + 12, ctx.data + 13], []⟩)
        else if ¬ ctx.HasTransport then
          (.error (), ⟨stats, ipv4Loads ctx, []⟩)
        else (checkBan bannedIps ktime ctx.srcAddr ctx.port).run
          ⟨stats, ipv4Loads ctx ++ [ctx.data + 34] ++ [ctx.data + 35], []⟩ := by
  have hv4 := nt.etherType_ipv4 (ctx.byte 12) (ctx.byte 13)
  rw [tryRustguard]
  by_cases h14 : ctx.bytes.length < 14
  · rw [if_pos h14, ptrAt_bind_err _ _ h14]
  rw [if_neg h14, ptrAt_bind_ok _ _ (Nat.le_of_not_lt h14),
    deref_bind (i := 12) rfl, deref_bind (i := 13) rfl]
  by_cases hip : ctx.IsIpv4
  · rw [if_neg (not_not_intro hip), hv4.mpr hip]
    by_cases h34 : ctx.bytes.length < 34
    · rw [if_pos h34]
      exact ptrAt_bind_err _ _ h34
    · rw [if_neg h34]
      show (ptrAt ctx ipv4HdrLen ethHdrLen >>= _).run _ = _
      rw [ptrAt_bind_ok _ _ (Nat.le_of_not_lt h34),
        deref_bind (i := 26) (Nat.add_assoc ..),
        deref_bind (i := 27) (Nat.add_assoc ..),
        deref_bind (i := 28) (Nat.add_assoc ..),
        deref_bind (i := 29) (Nat.add_assoc ..),
        deref_bind (i := 23) (Nat.add_assoc ..)]
      cases hproto : nt.proto (ctx.byte 23) with
      | error e =>
          -- `proto()` knows no name for it, so it is neither TCP nor UDP
          have htcp := nt.proto_tcp (ctx.byte 23)
          have hudp := nt.proto_udp (ctx.byte 23)
          rw [hproto] at htcp hudp
          have hno : ¬ ctx.HasTransport := fun h =>
            h.elim (fun h => nomatch htcp.mpr h.1)
              fun h => nomatch hudp.mpr h.1
          rw [if_pos hno]
          rfl
      | ok proto =>
          show (sourcePort nt ctx proto >>= _).run _ = _
          rw [sourcePort_bind hproto]
          by_cases htr : ctx.HasTransport
          · rw [if_pos htr, if_neg (not_not_intro htr)]
            rfl
          · rw [if_neg htr, if_pos htr]
            rfl
  · rw [if_pos hip]
    cases het : nt.etherType (ctx.byte 12) (ctx.byte 13) with
    | error e => rfl
    | ok et =>
        cases et with
        | ipv4 => exact absurd (hv4.mp het) hip
        | other raw => rfl

/-- One constructor per path: under which condition on the frame and the
table it is taken, and everything the run leaves. -/
inductive Path (bannedIps : BannedIps) (stats : Stats) (ktime : Nat)
    (ctx : XdpContext) : XdpAction × XdpState → Prop
  | noEthernet (hlen : ctx.bytes.length < 14) :
      Path bannedIps stats ktime ctx (.aborted, ⟨stats, [], []⟩)
  | notIpv4 (hlen : 14 ≤ ctx.bytes.length) (hip : ¬ ctx.IsIpv4) :
      Path bannedIps stats ktime ctx
        (.pass, ⟨stats, [ctx.data + 12, ctx.data + 13], []⟩)
  | noIpv4Hdr (hlen : 14 ≤ ctx.bytes.length) (hip : ctx.IsIpv4)
      (hshort : ctx.bytes.length < 34) :
      Path bannedIps stats ktime ctx
        (.aborted, ⟨stats, [ctx.data + 12, ctx.data + 13], []⟩)
  | noTransport (hlen : 34 ≤ ctx.bytes.length) (hip : ctx.IsIpv4)
      (htr : ¬ ctx.HasTransport) :
      Path bannedIps stats ktime ctx (.aborted, ⟨stats, ipv4Loads ctx, []⟩)
  | drop (hlen : 42 ≤ ctx.bytes.length) (hc : ctx.Complete)
      (hban : banned bannedIps ctx.srcAddr ktime = true) :
      Path bannedIps stats ktime ctx
        (.drop, ⟨countDrop stats,
          ipv4Loads ctx ++ [ctx.data + 34] ++ [ctx.data + 35],
          [⟨ctx.srcAddr, ctx.port⟩]⟩)
  | pass (hlen : 42 ≤ ctx.bytes.length) (hc : ctx.Complete)
      (hban : banned bannedIps ctx.srcAddr ktime = false) :
      Path bannedIps stats ktime ctx
        (.pass, ⟨stats,
          ipv4Loads ctx ++ [ctx.data + 34] ++ [ctx.data + 35], []⟩)

section Run

variable (nt : NetworkTypes) (bannedIps : BannedIps) (stats : Stats)
  (ktime : Nat) (ctx : XdpContext)

/-- Every run of the program is one of the six. -/
theorem rustguard_path :
    Path bannedIps stats ktime ctx
      (rustguard nt bannedIps stats ktime ctx) := by
  rw [rustguard, tryRustguard_run, checkBan_run]
  by_cases h14 : ctx.bytes.length < 14
  · rw [if_pos h14]
    exact .noEthernet h14
  rw [if_neg h14]
  by_cases hip : ctx.IsIpv4
  · rw [if_neg (not_not_intro hip)]
    by_cases h34 : ctx.bytes.length < 34
    · rw [if_pos h34]
      exact .noIpv4Hdr (Nat.le_of_not_lt h14) hip h34
    · rw [if_neg h34]
      by_cases htr : ctx.HasTransport
      · have hlen : 42 ≤ ctx.bytes.length := by
          rcases htr with h | h <;> omega
        rw [if_neg (not_not_intro htr)]
        cases hban : banned bannedIps ctx.srcAddr ktime with
        | true => exact .drop hlen ⟨hip, htr⟩ hban
        | false => exact .pass hlen ⟨hip, htr⟩ hban
      · rw [if_pos htr]
        exact .noTransport (Nat.le_of_not_lt h34) hip htr
  · rw [if_pos hip]
    exact .notIpv4 (Nat.le_of_not_lt h14) hip

/-- The verdict of the program is `verdict`. -/
theorem rustguard_verdict :
    (rustguard nt bannedIps stats ktime ctx).1
      = verdict bannedIps ktime ctx := by
  have hpath := rustguard_path nt bannedIps stats ktime ctx
  generalize rustguard nt bannedIps stats ktime ctx = r at hpath ⊢
  cases hpath with
  | noEthernet hlen => simp [verdict, hlen]
  | notIpv4 hlen hip => simp [verdict, hlen, hip]
  | noIpv4Hdr hlen hip hshort =>
      -- too short for an IPv4 header, hence for what is behind it
      have htr : ¬ ctx.HasTransport := fun h => by
        rcases h with h | h <;> omega
      simp [verdict, hip, htr]
  | noTransport hlen hip htr =>
      simp [verdict, hip, htr, show ¬ ctx.bytes.length < 14 by omega]
  | drop hlen hc hban =>
      simp [verdict, hc.1, hc.2, hban,
        show ¬ ctx.bytes.length < 14 by omega]
  | pass hlen hc hban =>
      simp [verdict, hc.1, hc.2, hban,
        show ¬ ctx.bytes.length < 14 by omega]

/-- Every address dereferenced lies in the frame. -/
theorem rustguard_loads :
    ∀ a ∈ (rustguard nt bannedIps stats ktime ctx).2.loads,
      ctx.data ≤ a ∧ a < ctx.dataEnd := by
  have hend : ctx.dataEnd = ctx.data + ctx.bytes.length := rfl
  have hpath := rustguard_path nt bannedIps stats ktime ctx
  revert hpath
  generalize rustguard nt bannedIps stats ktime ctx = r
  intro hpath a ha
  rw [hend]
  cases hpath with
  | noEthernet hlen => cases ha
  | notIpv4 hlen hip =>
      simp only [List.mem_cons, List.not_mem_nil, or_false] at ha
      omega
  | noIpv4Hdr hlen hip hshort =>
      simp only [List.mem_cons, List.not_mem_nil, or_false] at ha
      omega
  | noTransport hlen hip htr =>
      simp only [ipv4Loads, List.mem_cons, List.not_mem_nil, or_false] at ha
      omega
  | drop hlen hc hban | pass hlen hc hban =>
      simp only [ipv4Loads, List.mem_append, List.mem_cons,
        List.not_mem_nil, or_false] at ha
      omega

/-- The counter is told of a drop and of nothing else. -/
theorem rustguard_stats :
    (rustguard nt bannedIps stats ktime ctx).2.stats
      = if verdict bannedIps ktime ctx = .drop then countDrop stats
        else stats := by
  have hpath := rustguard_path nt bannedIps stats ktime ctx
  rw [← rustguard_verdict nt bannedIps stats ktime ctx]
  generalize rustguard nt bannedIps stats ktime ctx = r at hpath ⊢
  cases hpath <;> rfl

end Run

-- ========================================================== the verdict

section Verdict

variable {bannedIps : BannedIps} {ktime : Nat} {ctx : XdpContext}

/-- A complete frame is long enough for its IP header. -/
theorem XdpContext.Complete.length_ge (hc : ctx.Complete) :
    42 ≤ ctx.bytes.length := by
  rcases hc.2 with h | h <;> omega

/-- On a complete frame the table alone decides. -/
theorem verdict_complete (hc : ctx.Complete) :
    verdict bannedIps ktime ctx
      = if banned bannedIps ctx.srcAddr ktime then .drop else .pass := by
  have hlen := hc.length_ge
  rw [verdict, if_neg (by omega), if_neg (not_not_intro hc.1),
    if_neg (not_not_intro hc.2)]

/-- A drop needs a complete frame from an address with a ban in force. -/
theorem verdict_drop_iff :
    verdict bannedIps ktime ctx = .drop
      ↔ ctx.Complete ∧ banned bannedIps ctx.srcAddr ktime = true := by
  by_cases hc : ctx.Complete
  · rw [verdict_complete hc]
    simp [hc]
  · refine ⟨fun h => ?_, fun h => absurd h.1 hc⟩
    unfold verdict at h
    split at h
    · cases h
    split at h
    · cases h
    split at h
    · cases h
    · rename_i hip htr
      exact absurd ⟨not_not.mp hip, not_not.mp htr⟩ hc

/-- With an IPv4 header there and no ban in force, the transport header
decides between a pass and an abort. -/
theorem verdict_unbanned (hlen : 34 ≤ ctx.bytes.length)
    (hip : ctx.IsIpv4) (hban : banned bannedIps ctx.srcAddr ktime = false) :
    verdict bannedIps ktime ctx
      = if ctx.HasTransport then .pass else .aborted := by
  rw [verdict, if_neg (by omega), if_neg (not_not_intro hip), hban]
  by_cases htr : ctx.HasTransport <;> simp [htr]

/-- Under a ban in force an IPv4 frame is dropped or aborted. -/
theorem verdict_banned (hip : ctx.IsIpv4)
    (hban : banned bannedIps ctx.srcAddr ktime = true) :
    verdict bannedIps ktime ctx ≠ .pass := by
  unfold verdict
  rw [if_neg (not_not_intro hip), hban]
  split
  · simp
  · split <;> simp

/-- The verdict reads seven bytes and the length. -/
theorem verdict_congr {ctx' : XdpContext}
    (hlen : ctx.bytes.length = ctx'.bytes.length)
    (hbyte : ∀ i ∈ [12, 13, 23, 26, 27, 28, 29], ctx.byte i = ctx'.byte i) :
    verdict bannedIps ktime ctx = verdict bannedIps ktime ctx' := by
  have h12 := hbyte 12 (by simp)
  have h13 := hbyte 13 (by simp)
  have h23 := hbyte 23 (by simp)
  have h26 := hbyte 26 (by simp)
  have h27 := hbyte 27 (by simp)
  have h28 := hbyte 28 (by simp)
  have h29 := hbyte 29 (by simp)
  have hip : ctx.IsIpv4 ↔ ctx'.IsIpv4 := by
    rw [XdpContext.IsIpv4, XdpContext.IsIpv4, h12, h13]
  have htr : ctx.HasTransport ↔ ctx'.HasTransport := by
    rw [XdpContext.HasTransport, XdpContext.HasTransport, h23, hlen]
  have hsrc : ctx.srcAddr = ctx'.srcAddr := by
    rw [XdpContext.srcAddr, XdpContext.srcAddr, h26, h27, h28, h29]
  simp only [verdict, hlen, hip, htr, hsrc]

end Verdict

/-- No evasion by packet shape: the program stays inside the frame, never
passes an IPv4 frame whose source bytes are there and name an address
with a ban in force, and answers alike on frames of one length that agree
on the ethertype, the protocol and the source address. -/
theorem no_evasion (nt : NetworkTypes) (bannedIps : BannedIps)
    (stats : Stats) (ktime : Nat) (ctx : XdpContext) :
    (∀ a ∈ (rustguard nt bannedIps stats ktime ctx).2.loads,
      ctx.data ≤ a ∧ a < ctx.dataEnd)
    ∧ (30 ≤ ctx.bytes.length → ctx.byte 12 = 0x08 → ctx.byte 13 = 0x00 →
      (∃ ban, bannedIps.get? (u32FromBeBytes (ctx.byte 26) (ctx.byte 27)
          (ctx.byte 28) (ctx.byte 29)) = some ban
        ∧ (ban.endTime = 0 ∨ ktime ≤ ban.endTime.toNat)) →
      (rustguard nt bannedIps stats ktime ctx).1 ≠ .pass)
    ∧ (∀ (stats' : Stats) (ctx' : XdpContext),
      ctx.bytes.length = ctx'.bytes.length →
      (∀ i ∈ [12, 13, 23, 26, 27, 28, 29], ctx.byte i = ctx'.byte i) →
      (rustguard nt bannedIps stats ktime ctx).1
        = (rustguard nt bannedIps stats' ktime ctx').1) := by
  refine ⟨rustguard_loads nt bannedIps stats ktime ctx, ?_, ?_⟩
  · intro _ h12 h13 hban
    obtain ⟨ban, hget, hforce⟩ := hban
    rw [rustguard_verdict]
    refine verdict_banned ⟨h12, h13⟩ ?_
    rw [banned, XdpContext.srcAddr, hget, Option.any_some, inForce_iff]
    exact hforce
  · intro stats' ctx' hlen hbyte
    rw [rustguard_verdict, rustguard_verdict]
    exact verdict_congr hlen hbyte

/-- A frame of `len` bytes from `ip`, zero but for the ethertype, the
protocol and the source. -/
def frameFrom (ip : Ipv4Addr) (proto : UInt8) (len : Nat) : XdpContext where
  data := 4096
  bytes := (List.replicate 12 0 ++ [0x08, 0x00] ++ List.replicate 9 0
    ++ [proto, 0, 0, ip.a, ip.b, ip.c, ip.d] ++ List.replicate 24 0).take len

theorem no_evasion_truncated :
    (rustguard networkTypes
      (BoundedMap.empty.insert (Ipv4Addr.toU32 ⟨10, 0, 0, 1⟩) ⟨0⟩).1 .empty 7
      (frameFrom ⟨10, 0, 0, 1⟩ 6 30)).1 ≠ .pass :=
  (no_evasion networkTypes
    (BoundedMap.empty.insert (Ipv4Addr.toU32 ⟨10, 0, 0, 1⟩) ⟨0⟩).1 .empty 7
    (frameFrom ⟨10, 0, 0, 1⟩ 6 30)).2.1 (by decide) (by decide) (by decide)
    ⟨⟨0⟩, by decide, Or.inl rfl⟩

end RustGuard
