/-
The daemon's side of the table (`rustguard/src/main.rs`): the requests,
the answers, and what each request does to `BANNED_IPS`; then the daemon
and the XDP program together, as one machine over requests and frames in
whatever order they come.

# Reading the clock

`get_boot_time_ns` does not read a boot clock. It takes the wall clock's
nanoseconds since 1970 as an `i64`, 0 if they do not fit, and casts. The
reading is an input of every request (`utc`, what
`Utc::now().timestamp_nanos_opt()` returned), so a theorem about every
run is a theorem about every sequence of readings. Arithmetic is the
release build's: it wraps. What a debug build makes of the one
expression that can overflow is `debugEndTime`.

# What is thrown away

`insert` and `remove` return a result; the daemon drops both and answers
`Ok`. The model calls the map, keeps the map it leaves, and drops the
result in the same place.
-/
import RustGuard.Xdp
import RustGuard.Lib.Ipv4
import RustGuard.Lib.Machine

namespace RustGuard

open Lib

-- ============================================================ messages

/-- `DaemonRequest`. -/
inductive DaemonRequest
  | ban (target : String) (ttl : Option UInt64)
  | unban (target : String)
  | list
  | stats
  deriving DecidableEq, Repr

/-- `DaemonResponse`. -/
inductive DaemonResponse
  | ok
  | error (message : String)
  | list (items : List String)
  | stats (text : String)
  deriving DecidableEq, Repr

-- =========================================================== the clock

/-- `get_boot_time_ns`, of what `timestamp_nanos_opt()` returned. -/
def getBootTimeNs (utc : Option Int64) : UInt64 := (utc.getD 0).toUInt64

/-- The `end_time` of a ban asked for at `now`. -/
def endTime (now : UInt64) (ttl : Option UInt64) : UInt64 :=
  (ttl.map fun t => now + t * 1000000000).getD 0

/-- `x.checked_mul(y)`: the product a debug build computes, which panics
where this is `none`. -/
def checkedMul (x y : UInt64) : Option UInt64 :=
  if x.toNat * y.toNat < 2 ^ 64 then some (x * y) else none

/-- `x.checked_add(y)`, the sum a debug build computes. -/
def checkedAdd (x y : UInt64) : Option UInt64 :=
  if x.toNat + y.toNat < 2 ^ 64 then some (x + y) else none

/-- `endTime` in a debug build, `none` where it panics. -/
def debugEndTime (now : UInt64) : Option UInt64 → Option UInt64
  | some t => do checkedAdd now (← checkedMul t 1000000000)
  | none => some 0

-- ============================================================ dispatch

/-- What the two programs share. -/
structure Guard where
  bannedIps : BannedIps
  stats : Stats

/-- The maps as loading the eBPF object creates them. -/
def Guard.init : Guard := ⟨.empty, .empty⟩

/-- The request `match` of the accept loop. -/
def dispatch (g : Guard) (utc : Option Int64) :
    DaemonRequest → Guard × DaemonResponse
  | .ban target ttl =>
      match Ipv4Addr.fromStr target with
      | some ip =>
          let now := getBootTimeNs utc
          let value : BanValue := ⟨endTime now ttl⟩
          let (bannedIps, _) := g.bannedIps.insert ip.toU32 value
          ({ g with bannedIps }, .ok)
      | none => (g, .error "invalid ip")
  | .unban target =>
      match Ipv4Addr.fromStr target with
      | some ip =>
          let (bannedIps, _) := g.bannedIps.remove ip.toU32
          ({ g with bannedIps }, .ok)
      | none => (g, .error "invalid ip")
  | .list =>
      (g, .list (g.bannedIps.keys.map fun key =>
        (Ipv4Addr.ofU32 key).toText))
  | .stats =>
      match g.stats.get? 0 with
      | some v =>
          (g, .stats ("Packets dropped: " ++ Nat.repr v.packetsDropped.toNat))
      | none => (g, .stats "No stats")

-- ======================================================== the machine

/-- What reaches the two programs, one at a time. -/
inductive Event
  | request (req : DaemonRequest) (utc : Option Int64)
  | frame (ctx : XdpContext) (ktime : Nat)

/-- What they answer. -/
inductive Output
  | response (resp : DaemonResponse)
  | verdict (action : XdpAction)
  deriving DecidableEq, Repr

/-- One request through the daemon, or one frame through the XDP
program. -/
def Guard.step (nt : NetworkTypes) (g : Guard) : Event → Guard × Output
  | .request req utc =>
      let (g, resp) := dispatch g utc req
      (g, .response resp)
  | .frame ctx ktime =>
      let (action, s) := rustguard nt g.bannedIps g.stats ktime ctx
      ({ g with stats := s.stats }, .verdict action)

/-- The state a history leaves, from the freshly loaded maps. -/
def Guard.run (nt : NetworkTypes) (history : List Event) : Guard :=
  Machine.runState (Guard.step nt) .init history

end RustGuard
