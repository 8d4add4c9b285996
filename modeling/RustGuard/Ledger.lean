/-
What the firewall is for, in its own terms: every address stands under
the most recent request that took effect for it, and a ban that is in
force stops the address's packets.

The ledger knows no table, no keys and no words. It is a function from
addresses to rulings, and the only trace the implementation leaves in it
is that at most `maxEntries` addresses can be banned at a time: a ban of
one more address takes no effect. That is why `Ledger.step` counts a set
of addresses, classically, where the code asks a map.

Proofs/Enforcement.lean shows that the table is this ledger, run by run.
-/
import RustGuard.Daemon
import RustGuard.Proofs.Verdict

namespace RustGuard

open Lib

/-- What the most recent effective request for an address asked for. -/
inductive Ruling
  | ban (endTime : Nat)
  | unban
  deriving DecidableEq, Repr

/-- The end of the ban a ruling imposes, if it is one. -/
def Ruling.endTime? : Ruling → Option Nat
  | .ban endTime => some endTime
  | .unban => none

/-- The ruling each address stands under; `none` before the first. -/
abbrev Ledger := Ipv4Addr → Option Ruling

namespace Ledger

/-- The ledger before any request. -/
def init : Ledger := fun _ => none

/-- The end of the ban an address stands under. -/
def endTime? (l : Ledger) (ip : Ipv4Addr) : Option Nat :=
  (l ip).bind Ruling.endTime?

/-- The addresses that stand under a ban, over or not. -/
def entries (l : Ledger) : Set Ipv4Addr := {ip | (l.endTime? ip).isSome}

/-- A ban of `ip` takes effect: it has an entry already, or one is
free. -/
def Effective (l : Ledger) (ip : Ipv4Addr) : Prop :=
  ip ∈ l.entries ∨ l.entries.ncard < maxEntries

/-- The end time a ban asks for: 0 for good, else what the clock read (0
if it could not tell) plus the ttl in nanoseconds, in 64 bits. -/
def askedEnd (utc : Option Int64) : Option UInt64 → Nat
  | none => 0
  | some ttl =>
      (((utc.getD 0).toInt + ttl.toNat * 10 ^ 9) % 2 ^ 64).toNat

open Classical in
/-- One event: a request that takes effect replaces the ruling of its
address, and nothing else changes anything. -/
noncomputable def step (l : Ledger) : Event → Ledger
  | .request (.ban target ttl) utc =>
      match Ipv4Addr.fromStr target with
      | some ip =>
          if l.Effective ip then
            Function.update l ip (some (.ban (askedEnd utc ttl)))
          else l
      | none => l
  | .request (.unban target) _ =>
      match Ipv4Addr.fromStr target with
      | some ip => Function.update l ip (some .unban)
      | none => l
  | .request .list _ => l
  | .request .stats _ => l
  | .frame _ _ => l

/-- The ledger a history leaves. -/
noncomputable def after (history : List Event) : Ledger :=
  history.foldl step init

/-- A packet of `ip` at `ktime` is to be stopped: the most recent
effective request for `ip` is a ban with no end, or with an end that is
not past. -/
def Blocks (l : Ledger) (ip : Ipv4Addr) (ktime : Nat) : Prop :=
  ∃ endTime, l ip = some (.ban endTime) ∧ (endTime = 0 ∨ ktime ≤ endTime)

end Ledger

end RustGuard
