/-
The monitor (`rustguard/src/monitor.rs`): from an event of the ring to
one line on the terminal.

# The line

`print_event` formats nine fields and ends the line. A width pads a
`String` and an integer; it does nothing to the two fields whose
`Display` writes straight to the formatter, the protocol and the event
type, so those two columns are as wide as their text. None of the fields
is escaped: the process name is cut at its first NUL, decoded lossily,
and written as it is.

# The address

The event carries sixteen bytes and no family. `ip_to_string` takes an
address whose last twelve bytes are zero for an IPv4 address in the
first four, then looks for an IPv4-mapped one, and takes everything else
for IPv6.

# The clocks

A line is printed at some time of day, and the cache reads the monotonic
clock when it looks for an entry and once more when it stores one. What
the clocks and `/proc` answer is an input of every call.
-/
import RustGuard.Hooks
import RustGuard.Lib.Ipv6
import RustGuard.Lib.Machine
import RustGuard.Lib.Utf8Lossy

namespace RustGuard

open Lib

-- ========================================================== the cache

/-- `TTL`, in nanoseconds. -/
def cacheTtl : Nat := 30 * 1000000000

/-- `ProcessCache`: the name found for a process, and when it was
stored. -/
structure ProcessCache where
  cache : UInt32 → Option (String × Nat)

/-- `ProcessCache::default()`. -/
def ProcessCache.default : ProcessCache := ⟨fun _ => none⟩

/-- `cache.insert(pid, entry)`. -/
def ProcessCache.insert (self : ProcessCache) (pid : UInt32)
    (entry : String × Nat) : ProcessCache :=
  ⟨fun pid' => if pid' = pid then some entry else self.cache pid'⟩

/-- A call of `exe`, with what it is answered: the clock when an entry
is looked at, the link if it can be read, the clock when the result is
stored. -/
structure ExeCall where
  pid : UInt32
  now : Nat
  link : Option String
  stored : Nat
  deriving DecidableEq, Repr

/-- What a call returns, and whether it read the link. -/
structure ExeAnswer where
  exe : String
  read : Bool
  deriving DecidableEq, Repr

/-- What reading the link gives, a failure counted in. -/
def ExeCall.found (call : ExeCall) : String := call.link.getD "<unknown>"

/-- `ProcessCache::exe`. -/
def ProcessCache.exe (self : ProcessCache) (call : ExeCall) :
    ProcessCache × ExeAnswer :=
  let fresh := (self.cache call.pid).filter fun (_, ts) =>
    call.now - ts < cacheTtl
  match fresh with
  | some (exe, _) => (self, ⟨exe, false⟩)
  | none =>
      (self.insert call.pid (call.found, call.stored), ⟨call.found, true⟩)

-- ========================================================= formatting

/-- `{:<n}` of a text. -/
def padRight (n : Nat) (text : String) : String :=
  text ++ String.ofList (List.replicate (n - text.length) ' ')

/-- `{:>n}` and `{:0n}`, by what fills the space. -/
def padLeft (fill : Char) (n : Nat) (text : String) : String :=
  String.ofList (List.replicate (n - text.length) fill) ++ text

-- ========================================================== the fields

/-- `comm_to_string`: up to the first NUL. -/
def commToString (comm : Bytes16) : String :=
  Utf8Lossy.fromUtf8Lossy (comm.toList.takeWhile (· ≠ 0))

/-- `ip_to_string`. -/
def ipToString (ip : Bytes16) : String :=
  if (ip.toList.drop 4).all (· == 0) then
    (IpAddr.v4 ⟨ip.get 0, ip.get 1, ip.get 2, ip.get 3⟩).toText
  else if (ip.toList.take 10).all (· == 0) ∧ ip.get 10 = 0xff
      ∧ ip.get 11 = 0xff then
    (IpAddr.v4 ⟨ip.get 12, ip.get 13, ip.get 14, ip.get 15⟩).toText
  else (IpAddr.v6 ⟨ip⟩).toText

/-- The time since the epoch: whole seconds, and the milliseconds of the
fraction. -/
structure TimeOfDay where
  asSecs : Nat
  subsecMillis : Nat
  deriving DecidableEq, Repr

/-- `now_string`. -/
def nowString (now : TimeOfDay) : String :=
  let secs := now.asSecs % 86400
  padLeft '0' 2 (Nat.repr (secs / 3600)) ++ ":"
    ++ padLeft '0' 2 (Nat.repr (secs / 60 % 60)) ++ ":"
    ++ padLeft '0' 2 (Nat.repr (secs % 60)) ++ "."
    ++ padLeft '0' 3 (Nat.repr now.subsecMillis)

/-- `result_string`. -/
def resultString (ret : Int32) : String :=
  if ret = 0 then "OK" else "ERR(" ++ ret.toInt.repr ++ ")"

/-- `arrow`. -/
def arrow : EventType → String
  | .connect => "─────▶"
  | .accept => "◀─────"
  | _ => "──────"

/-- `format!("{}:{}", ip_to_string(ip), port)`. -/
def endpoint (ip : Bytes16) (port : UInt16) : String :=
  ipToString ip ++ ":" ++ Nat.repr port.toNat

-- ============================================================ the line

/-- What the clocks and `/proc` answer while one event is printed. -/
structure Reading where
  time : TimeOfDay
  now : Nat
  link : Option String
  stored : Nat
  deriving DecidableEq, Repr

/-- The line of an event, without its end. -/
def eventLine (time : TimeOfDay) (event : NetEvent) : String :=
  let src := endpoint event.srcIp event.srcPort
  let dst := endpoint event.dstIp event.dstPort
  padRight 12 (nowString time) ++ " "
    ++ padRight 16 (commToString event.comm) ++ " "
    ++ padLeft ' ' 6 (Nat.repr event.pid.toNat) ++ " "
    ++ event.protocol.toText ++ " "
    ++ event.event.asStr ++ " "
    ++ padRight 10 (resultString event.ret) ++ " "
    ++ src ++ " " ++ arrow event.event ++ " " ++ dst

/-- `print_event`: what it writes, and the cache it leaves. -/
def printEvent (cache : ProcessCache) (item : Reading × NetEvent) :
    ProcessCache × String :=
  let (reading, event) := item
  let (cache, _) := cache.exe
    ⟨event.pid, reading.now, reading.link, reading.stored⟩
  (cache, eventLine reading.time event ++ "\n")

/-- What the monitor writes for the events of a run, in order. -/
def monitorText (items : List (Reading × NetEvent)) : String :=
  String.join (Machine.outputs printEvent .default items)

end RustGuard
