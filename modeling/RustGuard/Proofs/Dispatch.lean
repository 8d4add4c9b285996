/-
One step of the machine, said once: what each request does, arm by arm,
and what a frame does.

`Dispatched` lists the seven ways a request can end, each with the maps
it leaves and the answer it gets, and `dispatch_arm` says there are no
others. A fact about all requests is a case analysis over it; the
equations above it are for the places where the request is known.
-/
import RustGuard.Daemon
import RustGuard.Proofs.Verdict

namespace RustGuard

open Lib

-- ==================================================== dispatch, by arm

section Dispatch

variable {g : Guard} {utc : Option Int64} {target : String} {ip : Ipv4Addr}

theorem dispatch_ban {ttl : Option UInt64}
    (hip : Ipv4Addr.fromStr target = some ip) :
    dispatch g utc (.ban target ttl)
      = ({ g with bannedIps := (g.bannedIps.insert ip.toU32
            ⟨endTime (getBootTimeNs utc) ttl⟩).1 }, .ok) := by
  rw [dispatch, hip]

theorem dispatch_ban_invalid {ttl : Option UInt64}
    (hip : Ipv4Addr.fromStr target = none) :
    dispatch g utc (.ban target ttl) = (g, .error "invalid ip") := by
  rw [dispatch, hip]

theorem dispatch_unban (hip : Ipv4Addr.fromStr target = some ip) :
    dispatch g utc (.unban target)
      = ({ g with bannedIps := (g.bannedIps.remove ip.toU32).1 }, .ok) := by
  rw [dispatch, hip]

theorem dispatch_unban_invalid (hip : Ipv4Addr.fromStr target = none) :
    dispatch g utc (.unban target) = (g, .error "invalid ip") := by
  rw [dispatch, hip]

/-- `Stats` only reads. -/
theorem dispatch_stats : (dispatch g utc .stats).1 = g := by
  rw [dispatch]
  split <;> rfl

end Dispatch

/-- A history and one more request. -/
theorem run_request (nt : NetworkTypes) (history : List Event)
    (req : DaemonRequest) (utc : Option Int64) :
    Guard.run nt (history ++ [.request req utc])
      = (dispatch (Guard.run nt history) utc req).1 := by
  rw [Guard.run, Machine.runState_append]
  rfl

/-- The verdict of a frame. -/
theorem step_frame_verdict (nt : NetworkTypes) (g : Guard)
    (ctx : XdpContext) (ktime : Nat) :
    (g.step nt (.frame ctx ktime)).2
      = .verdict (verdict g.bannedIps ktime ctx) := by
  rw [← rustguard_verdict nt g.bannedIps g.stats]
  rfl

-- ======================================================= the seven arms

/-- One constructor per arm: the request, the maps it leaves, the
answer. -/
inductive Dispatched (g : Guard) (utc : Option Int64) :
    DaemonRequest → Guard × DaemonResponse → Prop
  | ban {target : String} {ttl : Option UInt64} {ip : Ipv4Addr}
      (hip : Ipv4Addr.fromStr target = some ip) :
      Dispatched g utc (.ban target ttl)
        ({ g with bannedIps := (g.bannedIps.insert ip.toU32
            ⟨endTime (getBootTimeNs utc) ttl⟩).1 }, .ok)
  | banInvalid {target : String} {ttl : Option UInt64}
      (hip : Ipv4Addr.fromStr target = none) :
      Dispatched g utc (.ban target ttl) (g, .error "invalid ip")
  | unban {target : String} {ip : Ipv4Addr}
      (hip : Ipv4Addr.fromStr target = some ip) :
      Dispatched g utc (.unban target)
        ({ g with bannedIps := (g.bannedIps.remove ip.toU32).1 }, .ok)
  | unbanInvalid {target : String}
      (hip : Ipv4Addr.fromStr target = none) :
      Dispatched g utc (.unban target) (g, .error "invalid ip")
  | list :
      Dispatched g utc .list (g, .list (g.bannedIps.keys.map fun key =>
        (Ipv4Addr.ofU32 key).toText))
  | counted {v : StatsValue} (hget : g.stats.get? 0 = some v) :
      Dispatched g utc .stats
        (g, .stats ("Packets dropped: " ++ Nat.repr v.packetsDropped.toNat))
  | noStats (hget : g.stats.get? 0 = none) :
      Dispatched g utc .stats (g, .stats "No stats")

/-- Every request takes one of them. -/
theorem dispatch_arm (g : Guard) (utc : Option Int64)
    (req : DaemonRequest) : Dispatched g utc req (dispatch g utc req) := by
  cases req with
  | ban target ttl =>
      cases hip : Ipv4Addr.fromStr target with
      | none =>
          rw [dispatch_ban_invalid hip]
          exact .banInvalid hip
      | some ip =>
          rw [dispatch_ban hip]
          exact .ban hip
  | unban target =>
      cases hip : Ipv4Addr.fromStr target with
      | none =>
          rw [dispatch_unban_invalid hip]
          exact .unbanInvalid hip
      | some ip =>
          rw [dispatch_unban hip]
          exact .unban hip
  | list => exact .list
  | stats =>
      rw [dispatch]
      cases hget : g.stats.get? 0 with
      | none => exact .noStats hget
      | some v => exact .counted hget

end RustGuard
