/-
The table is the ledger, run by run, and the verdicts follow.

# The argument

`Refines` says that the table holds, under the key of every address, the
end time of the ban the ledger has for it. One step preserves it
(`refines_step`): the text of a request and the bytes of a frame go
through two separately written conversions to a `u32`, and both are
injective images of the same four octets; the 1024-entry limit of the
map is the limit on the ledger's set of addresses, because a bijection
between keys and addresses keeps cardinals (`Refines.size`). A run
preserves it by the machine's refinement rule.

`verdict_run` cashes it in at a frame.
-/
import RustGuard.Ledger
import RustGuard.Proofs.Dispatch

namespace RustGuard

open Lib

-- ======================================================= the refinement

/-- The table holds the ledger: under the key of each address, the end
of its ban. -/
def Refines (g : Guard) (l : Ledger) : Prop :=
  ∀ ip : Ipv4Addr, (g.bannedIps.get? ip.toU32).map (·.endTime.toNat)
    = l.endTime? ip

/-- `now` is the reading of the clock, in 64 bits. -/
theorem toNat_getBootTimeNs (utc : Option Int64) :
    ((getBootTimeNs utc).toNat : Int) = (utc.getD 0).toInt % 2 ^ 64 := by
  have hlt := (utc.getD 0).toBitVec.isLt
  show ((utc.getD 0).toBitVec.toNat : Int)
    = (utc.getD 0).toBitVec.toInt % 2 ^ 64
  rw [BitVec.toInt_eq_toNat_cond]
  split <;> omega

/-- What a release build adds up. -/
theorem toNat_endTime_some (now t : UInt64) :
    (endTime now (some t)).toNat
      = (now.toNat + t.toNat * 10 ^ 9) % 2 ^ 64 := by
  show (now + t * 1000000000).toNat = _
  rw [UInt64.toNat_add, UInt64.toNat_mul, Nat.add_mod_mod]
  rfl

/-- The end time the daemon computes is the one asked for. -/
theorem toNat_endTime (utc : Option Int64) (ttl : Option UInt64) :
    (endTime (getBootTimeNs utc) ttl).toNat = Ledger.askedEnd utc ttl := by
  cases ttl with
  | none => rfl
  | some t =>
      have hnow := toNat_getBootTimeNs utc
      rw [toNat_endTime_some, Ledger.askedEnd]
      omega

namespace Refines

variable {g : Guard} {l : Ledger}

/-- An address has an entry in the table when it stands under a ban. -/
theorem isSome_iff (h : Refines g l) (ip : Ipv4Addr) :
    (g.bannedIps.get? ip.toU32).isSome ↔ ip ∈ l.entries := by
  show _ ↔ (l.endTime? ip).isSome
  rw [← h ip, Option.isSome_map]

/-- The load of the table is the number of banned addresses. -/
theorem size (h : Refines g l) :
    g.bannedIps.size = l.entries.ncard := by
  have himage : {k | (g.bannedIps.get? k).isSome}
      = Ipv4Addr.toU32 '' l.entries := by
    ext k
    constructor
    · intro hk
      refine ⟨Ipv4Addr.ofU32 k, ?_, Ipv4Addr.toU32_ofU32 k⟩
      rw [← h.isSome_iff, Ipv4Addr.toU32_ofU32]
      exact hk
    · intro hk
      obtain ⟨ip, hip, rfl⟩ := hk
      exact (h.isSome_iff ip).mpr hip
  rw [← BoundedMap.ncard_dom, himage,
    Set.ncard_image_of_injective _ Ipv4Addr.toU32_injective]

/-- The map has room for an address exactly when a ban of it takes
effect. -/
theorem fits_iff (h : Refines g l) (ip : Ipv4Addr) :
    g.bannedIps.Fits ip.toU32 ↔ l.Effective ip := by
  rw [BoundedMap.Fits, Ledger.Effective, h.isSome_iff, h.size]

end Refines

/-- One more ruling, as the end times see it. -/
private theorem endTime?_update (l : Ledger) (ip ip' : Ipv4Addr)
    (r : Ruling) :
    Ledger.endTime? (Function.update l ip (some r)) ip'
      = if ip' = ip then r.endTime? else l.endTime? ip' := by
  by_cases hip : ip' = ip
  · subst hip
    simp [Ledger.endTime?]
  · simp [Ledger.endTime?, hip]

/-- One event, on both sides. -/
theorem refines_step (nt : NetworkTypes) (g : Guard) (l : Ledger)
    (e : Event) (h : Refines g l) :
    Refines (g.step nt e).1 (l.step e) := by
  cases e with
  | frame ctx ktime => exact h
  | request req utc =>
      show Refines (dispatch g utc req).1 _
      have harm := dispatch_arm g utc req
      generalize dispatch g utc req = r at harm ⊢
      cases harm with
      | list | noStats | counted => exact h
      | banInvalid hip | unbanInvalid hip =>
          rw [Ledger.step, hip]
          exact h
      | ban hip =>
          rename_i target ttl ip
          rw [Ledger.step, hip]
          intro ip'
          show ((g.bannedIps.insert _ _).1.get? _).map _ = _
          rw [BoundedMap.get?_insert]
          by_cases heff : l.Effective ip
          · have hfit := (h.fits_iff ip).mpr heff
            simp only [if_pos heff]
            rw [endTime?_update]
            by_cases hi : ip' = ip
            · subst hi
              rw [if_pos ⟨rfl, hfit⟩, if_pos rfl, Option.map_some,
                toNat_endTime]
              rfl
            · rw [if_neg (fun hc => hi (Ipv4Addr.toU32_injective hc.1)),
                if_neg hi]
              exact h ip'
          · have hfull := (h.fits_iff ip).not.mpr heff
            simp only [if_neg heff]
            rw [if_neg (fun hc => hfull hc.2)]
            exact h ip'
      | unban hip =>
          rename_i target ip
          rw [Ledger.step, hip]
          intro ip'
          show ((g.bannedIps.remove _).1.get? _).map _ = _
          show _ = Ledger.endTime? (Function.update l ip _) ip'
          rw [BoundedMap.get?_remove, endTime?_update]
          by_cases hi : ip' = ip
          · subst hi
            rw [if_pos rfl, if_pos rfl]
            rfl
          · rw [if_neg (fun hc => hi (Ipv4Addr.toU32_injective hc)),
              if_neg hi]
            exact h ip'

/-- Every history: the table it leaves is the ledger it leaves. -/
theorem refines_run (nt : NetworkTypes) (history : List Event) :
    Refines (Guard.run nt history) (Ledger.after history) :=
  Machine.runState_refines (Guard.step nt) (refines_step nt)
    (fun _ => rfl) history

-- ========================================================= the verdicts

/-- A ban in force in the table is a ban the ledger blocks on. -/
theorem Refines.banned_iff {g : Guard} {l : Ledger} (h : Refines g l)
    (ip : Ipv4Addr) (ktime : Nat) :
    banned g.bannedIps ip.toU32 ktime = true ↔ l.Blocks ip ktime := by
  have hip := h ip
  rw [banned, Ledger.Blocks]
  rw [Ledger.endTime?] at hip
  cases hget : g.bannedIps.get? ip.toU32 with
  | none =>
      rw [hget, Option.map_none] at hip
      constructor
      · intro hany
        cases hany
      · intro hblocks
        obtain ⟨e, hl, -⟩ := hblocks
        rw [hl] at hip
        cases hip
  | some ban =>
      rw [hget, Option.map_some] at hip
      obtain ⟨r, hl, hr⟩ := Option.bind_eq_some_iff.mp hip.symm
      have hban : l ip = some (.ban ban.endTime.toNat) := by
        cases r with
        | unban => cases hr
        | ban e =>
            injection hr with hr
            rw [hl, hr]
      rw [hban, Option.any_some, inForce_iff, ← toNat_eq_zero_iff]
      simp

/-- What a complete frame meets after any history. -/
theorem verdict_run (nt : NetworkTypes) (history : List Event)
    {ctx : XdpContext} (hc : ctx.Complete) (ktime : Nat) :
    verdict (Guard.run nt history).bannedIps ktime ctx = .drop
        ∧ (Ledger.after history).Blocks ctx.source ktime
      ∨ verdict (Guard.run nt history).bannedIps ktime ctx = .pass
        ∧ ¬ (Ledger.after history).Blocks ctx.source ktime := by
  have hiff := (refines_run nt history).banned_iff ctx.source ktime
  rw [verdict_complete hc, srcAddr_eq]
  cases hban : banned (Guard.run nt history).bannedIps ctx.source.toU32
      ktime with
  | true => exact Or.inl ⟨rfl, hiff.mp hban⟩
  | false =>
      refine Or.inr ⟨rfl, fun hb => ?_⟩
      rw [hiff.mpr hb] at hban
      cases hban

/-- End-to-end enforcement: at any place in any run of requests and
frames, a complete frame is dropped if the most recent effective request
for its source is a ban in force, and passed otherwise; and the table
the run has built up to there is the ledger of its requests. -/
theorem enforcement (nt : NetworkTypes) (pre post : List Event)
    (ctx : XdpContext) (ktime : Nat) (hc : ctx.Complete) :
    (∃ action,
      (Machine.outputs (Guard.step nt) .init
          (pre ++ .frame ctx ktime :: post))[pre.length]?
        = some (.verdict action)
      ∧ (action = .drop ↔ (Ledger.after pre).Blocks ctx.source ktime)
      ∧ (¬ (Ledger.after pre).Blocks ctx.source ktime → action = .pass))
    ∧ Refines (Guard.run nt pre) (Ledger.after pre)
    ∧ (Guard.run nt pre).bannedIps.size
        = (Ledger.after pre).entries.ncard := by
  have href := refines_run nt pre
  refine ⟨⟨verdict (Guard.run nt pre).bannedIps ktime ctx, ?_, ?_, ?_⟩,
    href, href.size⟩
  · rw [Machine.outputs_at, step_frame_verdict]
    rfl
  · rcases verdict_run nt pre hc ktime with ⟨hv, hb⟩ | ⟨hv, hb⟩
    · exact ⟨fun _ => hb, fun _ => hv⟩
    · refine ⟨fun hd => ?_, fun hb' => absurd hb' hb⟩
      rw [hv] at hd
      cases hd
  · intro hb
    rcases verdict_run nt pre hc ktime with ⟨-, hb'⟩ | ⟨hv, -⟩
    · exact absurd hb' hb
    · exact hv

/-- Before the first request every ban takes effect. -/
theorem Ledger.effective_init (ip : Ipv4Addr) :
    Ledger.init.Effective ip := by
  have hempty : Ledger.init.entries = ∅ :=
    Set.eq_empty_of_forall_notMem fun ip hip => nomatch hip
  right
  rw [hempty, Set.ncard_empty, maxEntries]
  omega

/-- So the first request is the ruling, if it is a ban. -/
theorem Ledger.after_ban {target : String} {ip : Ipv4Addr}
    (hip : Ipv4Addr.fromStr target = some ip) (ttl : Option UInt64)
    (utc : Option Int64) :
    Ledger.after [.request (.ban target ttl) utc] ip
      = some (.ban (Ledger.askedEnd utc ttl)) := by
  show Ledger.init.step (.request (.ban target ttl) utc) ip = _
  rw [Ledger.step, hip]
  simp only [Ledger.effective_init, if_true, Function.update_self]

theorem enforcement_tcp :
    (frameFrom ⟨10, 0, 0, 1⟩ 6 54).Complete
    ∧ (Ledger.after [.request (.ban "10.0.0.1" none) (some 5)]).Blocks
      ⟨10, 0, 0, 1⟩ 7
    ∧ (Machine.outputs (Guard.step networkTypes) .init
        ([.request (.ban "10.0.0.1" none) (some 5)]
          ++ .frame (frameFrom ⟨10, 0, 0, 1⟩ 6 54) 7 :: []))[1]?
      = some (.verdict .drop) := by
  have hc : (frameFrom ⟨10, 0, 0, 1⟩ 6 54).Complete := by decide
  have hblocks : (Ledger.after
      [.request (.ban "10.0.0.1" none) (some 5)]).Blocks ⟨10, 0, 0, 1⟩ 7 :=
    ⟨_, Ledger.after_ban (by decide) none (some 5), Or.inl rfl⟩
  obtain ⟨⟨action, hout, hdrop, -⟩, -⟩ := enforcement networkTypes
    [.request (.ban "10.0.0.1" none) (some 5)] []
    (frameFrom ⟨10, 0, 0, 1⟩ 6 54) 7 hc
  obtain rfl : action = .drop := hdrop.mpr hblocks
  exact ⟨hc, hblocks, hout⟩

-- =============================================== what nobody banned

/-- An IPv4 frame from an address with no ban in force, after any
history: it passes if and only if it carries TCP with at least 54 bytes
or UDP with at least 42. -/
theorem unbanned_pass_iff (nt : NetworkTypes) (history : List Event)
    (ctx : XdpContext) (ktime : Nat) (hlen : 34 ≤ ctx.bytes.length)
    (hip : ctx.IsIpv4)
    (hban : ∀ ban, (Guard.run nt history).bannedIps.get? ctx.source.toU32
      = some ban → ban.endTime ≠ 0 ∧ ban.endTime.toNat < ktime) :
    ((Guard.run nt history).step nt (.frame ctx ktime)).2 = .verdict .pass
      ↔ (ctx.byte 23 = 6 ∧ 54 ≤ ctx.bytes.length)
        ∨ (ctx.byte 23 = 17 ∧ 42 ≤ ctx.bytes.length) := by
  have hno : banned (Guard.run nt history).bannedIps ctx.srcAddr ktime
      = false := by
    rw [banned, srcAddr_eq]
    cases hget : (Guard.run nt history).bannedIps.get?
        ctx.source.toU32 with
    | none => rfl
    | some ban =>
        exact (inForce_eq_false_iff ban ktime).mpr (hban ban hget)
  rw [step_frame_verdict, verdict_unbanned hlen hip hno]
  show _ ↔ ctx.HasTransport
  by_cases htr : ctx.HasTransport <;> simp [htr]

/-- From an address nobody ever banned TCP passes and ICMP does not. -/
theorem unbanned_pass_iff_icmp :
    ((Guard.run networkTypes []).step networkTypes
        (.frame (frameFrom ⟨10, 0, 0, 1⟩ 6 54) 7)).2 = .verdict .pass
    ∧ ((Guard.run networkTypes []).step networkTypes
        (.frame (frameFrom ⟨10, 0, 0, 1⟩ 1 54) 7)).2 ≠ .verdict .pass := by
  have htcp := unbanned_pass_iff networkTypes []
    (frameFrom ⟨10, 0, 0, 1⟩ 6 54) 7 (by decide) (by decide)
    (fun _ h => nomatch h)
  have hicmp := unbanned_pass_iff networkTypes []
    (frameFrom ⟨10, 0, 0, 1⟩ 1 54) 7 (by decide) (by decide)
    (fun _ h => nomatch h)
  refine ⟨htcp.mpr (Or.inl ⟨rfl, by decide⟩), fun hpass => ?_⟩
  rcases hicmp.mp hpass with ⟨hproto, -⟩ | ⟨hproto, -⟩
  · cases hproto
  · cases hproto

/-- A ping from an address nobody ever banned is discarded. -/
theorem unbanned_icmp_aborted :
    34 ≤ (frameFrom ⟨10, 0, 0, 1⟩ 1 54).bytes.length
    ∧ (frameFrom ⟨10, 0, 0, 1⟩ 1 54).IsIpv4
    ∧ (Guard.run networkTypes []).bannedIps.get?
        (frameFrom ⟨10, 0, 0, 1⟩ 1 54).source.toU32 = none
    ∧ ((Guard.run networkTypes []).step networkTypes
        (.frame (frameFrom ⟨10, 0, 0, 1⟩ 1 54) 7)).2
      = .verdict .aborted := by
  decide

end RustGuard
