/-
The data the daemon and the XDP program share (`rustguard-common`), and
the two kernel maps they share it through.

The daemon writes `BANNED_IPS` and reads `STATS`; the XDP program reads
`BANNED_IPS` and writes `STATS`. Neither map is ever written from both
sides, and neither program creates an entry in `STATS`: what that means
for the counter is Proofs/Stats.lean's subject.
-/
import RustGuard.Lib.BoundedMap

namespace RustGuard

open Lib

/-- A ban: when it expires, in nanoseconds; 0 for a permanent one. -/
structure BanValue where
  endTime : UInt64
  deriving DecidableEq, Repr

/-- The drop counter. -/
structure StatsValue where
  packetsDropped : UInt64
  deriving DecidableEq, Repr

/-- The `with_max_entries(1024, 0)` of both maps. -/
def maxEntries : Nat := 1024

/-- `BANNED_IPS`: the ban of a source address, under its `u32`. -/
abbrev BannedIps := BoundedMap UInt32 BanValue maxEntries

/-- `STATS`: the counter, under key 0. -/
abbrev Stats := BoundedMap UInt32 StatsValue maxEntries

end RustGuard
