/-
Does the daemon's answer tell the truth about the table?

It does, for every request but one: a ban of an address that has no
entry, while the table holds its 1024. The insert fails, the daemon
drops the error, and the answer is `Ok` for an address that is let
through. `truthful_iff` says that this is the only way to be lied to, at
any point of any run; `fill` is a run that gets there, and any 1024
distinct bans would do, expired or not, since nothing but an unban ever
frees an entry.
-/
import RustGuard.Proofs.Enforcement

namespace RustGuard

open Lib

/-- What an answer claims about the table, and that it is so. An `Ok` to
a ban claims that the table holds this ban, and so that the address is
cut off until it ends; an `Ok` to an unban, that there is no entry; an
`Error`, that nothing was touched. -/
def Truthful (nt : NetworkTypes) (g : Guard) (utc : Option Int64)
    (req : DaemonRequest) : Prop :=
  (∀ target ttl, req = .ban target ttl → (dispatch g utc req).2 = .ok →
    ∃ ip, Ipv4Addr.fromStr target = some ip
      ∧ (dispatch g utc req).1.bannedIps.get? ip.toU32
          = some ⟨endTime (getBootTimeNs utc) ttl⟩
      ∧ ∀ ctx ktime, ctx.Complete → ctx.source = ip →
          (endTime (getBootTimeNs utc) ttl = 0
            ∨ ktime ≤ (endTime (getBootTimeNs utc) ttl).toNat) →
          ((dispatch g utc req).1.step nt (.frame ctx ktime)).2
            = .verdict .drop)
  ∧ (∀ target, req = .unban target → (dispatch g utc req).2 = .ok →
    ∃ ip, Ipv4Addr.fromStr target = some ip
      ∧ (dispatch g utc req).1.bannedIps.get? ip.toU32 = none)
  ∧ (∀ message, (dispatch g utc req).2 = .error message →
    (dispatch g utc req).1 = g)

-- ================================================= the three clauses

/-- An `Error` has touched nothing. -/
theorem dispatch_error {g : Guard} {utc : Option Int64}
    {req : DaemonRequest} {message : String}
    (h : (dispatch g utc req).2 = .error message) :
    (dispatch g utc req).1 = g := by
  have harm := dispatch_arm g utc req
  generalize dispatch g utc req = r at harm h ⊢
  cases harm with
  | ban hip | unban hip => cases h
  | banInvalid hip | unbanInvalid hip => rfl
  | list | counted hget | noStats hget => rfl

/-- An `Ok` to an unban leaves no entry, whether there was one or not. -/
theorem dispatch_unban_ok {g : Guard} {utc : Option Int64}
    {target : String} (h : (dispatch g utc (.unban target)).2 = .ok) :
    ∃ ip, Ipv4Addr.fromStr target = some ip
      ∧ (dispatch g utc (.unban target)).1.bannedIps.get? ip.toU32
          = none := by
  cases hip : Ipv4Addr.fromStr target with
  | none =>
      rw [dispatch_unban_invalid hip] at h
      cases h
  | some ip =>
      refine ⟨ip, rfl, ?_⟩
      rw [dispatch_unban hip]
      show (g.bannedIps.remove ip.toU32).1.get? ip.toU32 = none
      rw [BoundedMap.get?_remove, if_pos rfl]

/-- What the table reads for a banned address, after the ban. -/
theorem dispatch_ban_get? {g : Guard} {utc : Option Int64}
    {target : String} {ttl : Option UInt64} {ip : Ipv4Addr}
    (hip : Ipv4Addr.fromStr target = some ip) :
    (dispatch g utc (.ban target ttl)).1.bannedIps.get? ip.toU32
      = if g.bannedIps.Fits ip.toU32
        then some ⟨endTime (getBootTimeNs utc) ttl⟩ else none := by
  rw [dispatch_ban hip]
  show (g.bannedIps.insert ip.toU32 _).1.get? ip.toU32 = _
  rw [BoundedMap.get?_insert]
  by_cases hfit : g.bannedIps.Fits ip.toU32
  · rw [if_pos ⟨rfl, hfit⟩, if_pos hfit]
  · have hnone : g.bannedIps.get? ip.toU32 = none := by
      cases hget : g.bannedIps.get? ip.toU32 with
      | none => rfl
      | some v => exact absurd (Or.inl (by rw [hget]; rfl)) hfit
    rw [if_neg (fun h => hfit h.2), if_neg hfit, hnone]

/-- A stored ban stops the complete frames of its address while it
lasts. -/
theorem step_frame_drop (nt : NetworkTypes) {g : Guard} {ban : BanValue}
    {ctx : XdpContext} {ktime : Nat} (hc : ctx.Complete)
    (hget : g.bannedIps.get? ctx.source.toU32 = some ban)
    (hforce : ban.endTime = 0 ∨ ktime ≤ ban.endTime.toNat) :
    (g.step nt (.frame ctx ktime)).2 = .verdict .drop := by
  rw [step_frame_verdict, verdict_drop_iff.mpr]
  refine ⟨hc, ?_⟩
  rw [srcAddr_eq, banned, hget, Option.any_some, inForce_iff]
  exact hforce

-- ========================================================== the answer

/-- After any history, the answer to a request is truthful if and only if
the request is not a ban of a new address in a full table. -/
theorem truthful_iff (nt : NetworkTypes) (history : List Event)
    (utc : Option Int64) (req : DaemonRequest) :
    Truthful nt (Guard.run nt history) utc req
      ↔ ∀ target ttl ip, req = .ban target ttl →
          Ipv4Addr.fromStr target = some ip →
          ((Guard.run nt history).bannedIps.get? ip.toU32).isSome
            ∨ (Guard.run nt history).bannedIps.size < 1024 := by
  generalize Guard.run nt history = g
  constructor
  · intro htrue target ttl ip hreq hip
    obtain ⟨hban, -, -⟩ := htrue
    subst hreq
    obtain ⟨ip', hip', hget, -⟩ := hban target ttl rfl (by
      rw [dispatch_ban hip])
    obtain rfl : ip = ip' := by
      rw [hip] at hip'
      exact Option.some.inj hip'
    rw [dispatch_ban_get? hip] at hget
    by_contra hfull
    have hfull' : ¬ g.bannedIps.Fits ip.toU32 := hfull
    rw [if_neg hfull'] at hget
    cases hget
  · intro hfits
    refine ⟨?_, ?_, fun message h => dispatch_error h⟩
    · intro target ttl hreq hok
      subst hreq
      cases hip : Ipv4Addr.fromStr target with
      | none =>
          rw [dispatch_ban_invalid hip] at hok
          cases hok
      | some ip =>
          have hfit : g.bannedIps.Fits ip.toU32 := hfits target ttl ip rfl hip
          have hget : (dispatch g utc (.ban target ttl)).1.bannedIps.get?
              ip.toU32 = _ := dispatch_ban_get? hip
          rw [if_pos hfit] at hget
          refine ⟨ip, rfl, hget, ?_⟩
          intro ctx ktime hc hsrc hforce
          subst hsrc
          exact step_frame_drop nt hc hget hforce
    · intro target hreq hok
      subst hreq
      exact dispatch_unban_ok hok

-- ======================================================= a full table

/-- Permanent bans of the first `n` addresses, in order. -/
def fill (n : Nat) : List Event :=
  (List.range n).map fun i =>
    .request (.ban (Ipv4Addr.ofU32 (UInt32.ofNat i)).toText none) none

/-- Up to the limit, every one of them is in the table and nothing else
is. -/
theorem fill_run (nt : NetworkTypes) (n : Nat) (hn : n ≤ 1024) :
    (Guard.run nt (fill n)).bannedIps.size = n
      ∧ ∀ key : UInt32, ((Guard.run nt (fill n)).bannedIps.get? key).isSome
          ↔ key.toNat < n := by
  induction n with
  | zero => exact ⟨rfl, fun key => by simp [fill, Guard.run, Guard.init]⟩
  | succ n ih =>
      obtain ⟨hsize, hget⟩ := ih (by omega)
      have hkey : (UInt32.ofNat n).toNat = n := by
        rw [UInt32.toNat_ofNat']
        omega
      have hnew : (Guard.run nt (fill n)).bannedIps.get? (UInt32.ofNat n)
          = none := by
        have hnot := (hget (UInt32.ofNat n)).not.mpr (by omega)
        simpa using hnot
      have hroom : (Guard.run nt (fill n)).bannedIps.size < maxEntries := by
        rw [hsize, maxEntries]
        omega
      have hfit : (Guard.run nt (fill n)).bannedIps.Fits (UInt32.ofNat n) :=
        Or.inr hroom
      -- the last ban of the run, as an insert
      have hrun : (Guard.run nt (fill (n + 1))).bannedIps
          = ((Guard.run nt (fill n)).bannedIps.insert (UInt32.ofNat n)
              ⟨0⟩).1 := by
        rw [fill, List.range_succ, List.map_append, List.map_singleton,
          run_request, dispatch_ban (Ipv4Addr.fromStr_toText _),
          Ipv4Addr.toU32_ofU32]
        rfl
      rw [hrun]
      constructor
      · rw [BoundedMap.size_insert, if_pos ⟨hnew, hroom⟩, hsize]
      · intro key
        rw [BoundedMap.get?_insert]
        by_cases hk : key = UInt32.ofNat n
        · rw [if_pos ⟨hk, hfit⟩, hk, hkey]
          simp
        · have hne : key.toNat ≠ n := fun h => hk (by
            rw [← UInt32.toNat_inj, hkey, h])
          rw [if_neg (fun h => hk h.1), hget key]
          omega

/-- The 1025th address: `Ok`, and no entry. -/
theorem ban_when_full_untruthful :
    (dispatch (Guard.run networkTypes (fill 1024)) none
        (.ban "0.0.4.0" none)).2 = .ok
    ∧ Ipv4Addr.fromStr "0.0.4.0" = some ⟨0, 0, 4, 0⟩
    ∧ (dispatch (Guard.run networkTypes (fill 1024)) none
        (.ban "0.0.4.0" none)).1.bannedIps.get?
          (Ipv4Addr.toU32 ⟨0, 0, 4, 0⟩) = none := by
  have hip : Ipv4Addr.fromStr "0.0.4.0" = some ⟨0, 0, 4, 0⟩ := by decide
  obtain ⟨hsize, hget⟩ := fill_run networkTypes 1024 (Nat.le_refl _)
  refine ⟨by rw [dispatch_ban hip], hip, ?_⟩
  rw [dispatch_ban_get? hip, if_neg]
  intro hfits
  rcases hfits with hsome | hroom
  · exact absurd ((hget _).mp hsome) (by decide)
  · exact absurd hroom (by rw [hsize]; decide)

end RustGuard
