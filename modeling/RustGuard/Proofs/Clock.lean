/-
How long a timed ban lasts, on the one clock both programs live by.

The daemon stamps a ban with the wall clock, nanoseconds since 1970; the
XDP program compares the stamp with the time since boot. The two clocks
tick together, but the first is ahead of the second by the instant of
the boot, and so is every stamp: a ban of `t` seconds asked for at `r`
ends, for the XDP program, `boot` too late. On a machine booted in this
century that is half a lifetime.

`honoured_iff` fixes the instants at which the verdict is right all the
same: inside the `t` seconds, where a late end does no harm, and once
even the late end has passed. The second half of the definition is for
instants the wall clock cannot say in an `i64` (from 2262 on): there the
daemon reads 0, a stamp is `boot` early rather than late, and a ttl of
zero becomes the stamp that means "for good".
-/
import RustGuard.Proofs.Enforcement

namespace RustGuard

open Lib

-- ======================================================== the two clocks

/-- Real time is nanoseconds since 1970; the machine was booted some time
after that. -/
structure Clock where
  boot : Nat
  boot_pos : 0 < boot

/-- `Utc::now().timestamp_nanos_opt()` at the instant `r`: `None` once
the count does not fit an `i64`. -/
def utcAt (r : Nat) : Option Int64 :=
  if r < 2 ^ 63 then some (Int64.ofNat r) else none

/-- `bpf_ktime_get_ns()` at the instant `r`. -/
def Clock.ktimeAt (clock : Clock) (r : Nat) : Nat := r - clock.boot

/-- What the daemon reads at `r`. -/
theorem toNat_getBootTimeNs_utcAt (r : Nat) :
    (getBootTimeNs (utcAt r)).toNat = if r < 2 ^ 63 then r else 0 := by
  unfold getBootTimeNs utcAt
  by_cases hr : r < 2 ^ 63
  · rw [if_pos hr, if_pos hr, Option.getD_some, Int64.toUInt64_ofNat',
      UInt64.toNat_ofNat']
    omega
  · rw [if_neg hr, if_neg hr]
    rfl

-- ================================================= nothing in between

/-- The event is a request for `ip`. -/
def Event.Concerns (ip : Ipv4Addr) : Event → Prop
  | .request (.ban target _) _ => Ipv4Addr.fromStr target = some ip
  | .request (.unban target) _ => Ipv4Addr.fromStr target = some ip
  | _ => False

/-- The entry of an address changes only by requests for it. -/
theorem step_get?_of_not_concerns (nt : NetworkTypes) (g : Guard)
    {ip : Ipv4Addr} {e : Event} (he : ¬ e.Concerns ip) :
    (g.step nt e).1.bannedIps.get? ip.toU32
      = g.bannedIps.get? ip.toU32 := by
  cases e with
  | frame ctx ktime => rfl
  | request req utc =>
      show (dispatch g utc req).1.bannedIps.get? _ = _
      have harm := dispatch_arm g utc req
      generalize dispatch g utc req = r at harm ⊢
      cases harm with
      | banInvalid hip | unbanInvalid hip => rfl
      | list | counted hget | noStats hget => rfl
      | ban hip =>
          rename_i target ttl ip'
          have hne : ip.toU32 ≠ ip'.toU32 := fun h => he (by
            rw [Event.Concerns, hip, Ipv4Addr.toU32_injective h])
          show (g.bannedIps.insert _ _).1.get? _ = _
          rw [BoundedMap.get?_insert, if_neg (fun h => hne h.1)]
      | unban hip =>
          rename_i target ip'
          have hne : ip.toU32 ≠ ip'.toU32 := fun h => he (by
            rw [Event.Concerns, hip, Ipv4Addr.toU32_injective h])
          show (g.bannedIps.remove _).1.get? _ = _
          rw [BoundedMap.get?_remove, if_neg hne]

/-- Nor does it change along events that are none. -/
theorem run_get?_of_not_concerns (nt : NetworkTypes) {ip : Ipv4Addr}
    {mid : List Event} (hmid : ∀ e ∈ mid, ¬ e.Concerns ip) (g : Guard) :
    (Machine.runState (Guard.step nt) g mid).bannedIps.get? ip.toU32
      = g.bannedIps.get? ip.toU32 := by
  induction mid generalizing g with
  | nil => rfl
  | cons e mid ih =>
      rw [Machine.runState_cons,
        ih fun e' he' => hmid e' (List.mem_cons_of_mem _ he'),
        step_get?_of_not_concerns nt g (hmid e (List.mem_cons_self ..))]

-- ======================================================== the duration

/-- The instants `r'` at which a ban of `ttl` seconds, stored at `r`, is
enforced as asked. -/
def Honoured (clock : Clock) (r : Nat) (ttl : UInt64) (r' : Nat) : Prop :=
  if r < 2 ^ 63 then
    ¬ (r + ttl.toNat * 10 ^ 9 < r'
      ∧ r' ≤ r + ttl.toNat * 10 ^ 9 + clock.boot)
  else if ttl = 0 then r' = r
  else ¬ (ttl.toNat * 10 ^ 9 + clock.boot < r'
    ∧ r' ≤ ttl.toNat * 10 ^ 9 + r)

/-- Two naturals the two programs compare, on one scale: `late` is the
stamp, `r' - boot` the reading it is compared with. -/
private theorem honoured_arith {clock : Clock} {r r' : Nat} {ttl : UInt64}
    (hr : clock.boot ≤ r) (hr' : r ≤ r') {late : Nat}
    (hlate : late = (if r < 2 ^ 63 then r else 0) + ttl.toNat * 10 ^ 9) :
    ((late = 0 ∨ r' - clock.boot ≤ late) ↔ r' - r ≤ ttl.toNat * 10 ^ 9)
      ↔ Honoured clock r ttl r' := by
  have hboot := clock.boot_pos
  have hzero : ttl = 0 ↔ ttl.toNat = 0 := by
    rw [← UInt64.toNat_inj]
    rfl
  unfold Honoured
  by_cases hfit : r < 2 ^ 63
  · rw [if_pos hfit] at hlate ⊢
    omega
  · rw [if_neg hfit] at hlate ⊢
    by_cases ht : ttl = 0
    · have ht' := hzero.mp ht
      rw [if_pos ht]
      omega
    · have ht' := hzero.not.mp ht
      rw [if_neg ht]
      omega

/-- What the table holds for a banned address, from the ban to the next
request for it. -/
theorem run_ban_get? (nt : NetworkTypes) {pre mid : List Event}
    {target : String} {ip : Ipv4Addr} {ttl : Option UInt64}
    {utc : Option Int64} (hip : Ipv4Addr.fromStr target = some ip)
    (hstored : (Guard.run nt pre).bannedIps.Fits ip.toU32)
    (hmid : ∀ e ∈ mid, ¬ e.Concerns ip) :
    (Guard.run nt (pre ++ .request (.ban target ttl) utc :: mid)
        ).bannedIps.get? ip.toU32
      = some ⟨endTime (getBootTimeNs utc) ttl⟩ := by
  have hban := run_request nt pre (.ban target ttl) utc
  rw [Guard.run] at hban
  rw [List.append_cons, Guard.run, Machine.runState_append, hban,
    run_get?_of_not_concerns nt hmid, dispatch_ban hip]
  show ((Guard.run nt pre).bannedIps.insert _ _).1.get? _ = _
  rw [BoundedMap.get?_insert, if_pos ⟨rfl, hstored⟩]

/-- A timed ban, from the request that stores it to a frame that meets
it, with any events between them that are not requests for the address:
the frame is dropped exactly while the ttl lasts, if and only if the
frame's instant is one of those `Honoured`. -/
theorem honoured_iff (nt : NetworkTypes) (clock : Clock) {r r' : Nat}
    (hr : clock.boot ≤ r) (hr' : r ≤ r') {target : String}
    {ip : Ipv4Addr} (hip : Ipv4Addr.fromStr target = some ip)
    {ttl : UInt64}
    (hfits : (getBootTimeNs (utcAt r)).toNat + ttl.toNat * 10 ^ 9 < 2 ^ 64)
    {pre mid : List Event}
    (hstored : (Guard.run nt pre).bannedIps.Fits ip.toU32)
    (hmid : ∀ e ∈ mid, ¬ e.Concerns ip)
    {ctx : XdpContext} (hc : ctx.Complete) (hsrc : ctx.source = ip) :
    (((Guard.run nt
          (pre ++ .request (.ban target (some ttl)) (utcAt r) :: mid)).step
          nt (.frame ctx (clock.ktimeAt r'))).2 = .verdict .drop
        ↔ r' - r ≤ ttl.toNat * 10 ^ 9)
      ↔ Honoured clock r ttl r' := by
  subst hsrc
  have hend : (endTime (getBootTimeNs (utcAt r)) (some ttl)).toNat
      = (if r < 2 ^ 63 then r else 0) + ttl.toNat * 10 ^ 9 := by
    rw [toNat_endTime_some, Nat.mod_eq_of_lt hfits,
      toNat_getBootTimeNs_utcAt]
  rw [step_frame_verdict, Output.verdict.injEq, verdict_drop_iff,
    srcAddr_eq, banned, run_ban_get? nt hip hstored hmid, Option.any_some,
    inForce_iff, ← toNat_eq_zero_iff, and_iff_right hc]
  exact honoured_arith hr hr' hend

/-- Booted on 14 November 2023; an address banned for a minute, a hundred
seconds later: thirty seconds on, it is enforced. -/
theorem honoured_iff_minute :
    Honoured ⟨1700000000000000000, by decide⟩ 1700000100000000000 60
      1700000130000000000
    ∧ ((Guard.run networkTypes ([] ++
          .request (.ban "10.0.0.1" (some 60))
            (utcAt 1700000100000000000) :: [])).step networkTypes
          (.frame (frameFrom ⟨10, 0, 0, 1⟩ 6 54)
            (Clock.ktimeAt ⟨1700000000000000000, by decide⟩
              1700000130000000000))).2 = .verdict .drop := by
  have hip : Ipv4Addr.fromStr "10.0.0.1" = some ⟨10, 0, 0, 1⟩ := by decide
  have hhonoured : Honoured ⟨1700000000000000000, by decide⟩
      1700000100000000000 60 1700000130000000000 := by
    rw [Honoured, if_pos (by decide)]
    decide
  refine ⟨hhonoured, Iff.mpr (Iff.mpr (honoured_iff networkTypes
    ⟨1700000000000000000, by decide⟩ ?_ ?_ hip ?_ ?_ ?_ ?_ ?_)
    hhonoured) ?_⟩
  case refine_5 => simp
  all_goals decide

/-- The same ban, a minute after it was to end: still enforced. -/
theorem minute_ban_outlasts_ttl :
    ((Guard.run networkTypes
        [.request (.ban "10.0.0.1" (some 60))
          (utcAt 1700000100000000000)]).step networkTypes
        (.frame (frameFrom ⟨10, 0, 0, 1⟩ 6 54)
          (Clock.ktimeAt ⟨1700000000000000000, by decide⟩
            1700000220000000000))).2 = .verdict .drop
      ∧ ¬ 1700000220000000000 - 1700000100000000000
          ≤ (60 : UInt64).toNat * 10 ^ 9 := by
  decide

end RustGuard
