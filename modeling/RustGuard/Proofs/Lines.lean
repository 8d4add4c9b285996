/-
The monitor's log, line by line.

Eight of the nine fields of a line are the monitor's own words: numbers,
addresses, fixed texts. The ninth is the name of the process, which the
process chooses, sixteen bytes of anything. It is cut at the first NUL
and decoded lossily, and neither step takes out a newline. So a process
that calls itself `x\nY` breaks its line in two, and the second half is
whatever it likes.

`one_line_each_iff` says that nothing else can: over any run, the lines
of the text are the lines of the events, one each and in order, exactly
when no name has a newline before its first NUL.
-/
import RustGuard.Proofs.Addresses

namespace RustGuard

open Lib

-- ========================================================== the pieces

/-- The text has a newline in it. -/
def HasNewline (s : String) : Prop := '\n' ∈ s.toList

theorem hasNewline_append {s t : String} :
    HasNewline (s ++ t) ↔ HasNewline s ∨ HasNewline t := by
  unfold HasNewline
  rw [String.toList_append, List.mem_append]

/-- A piece without one can be left off, in front or behind. -/
theorem hasNewline_append_left {s t : String} (hs : ¬ HasNewline s) :
    HasNewline (s ++ t) ↔ HasNewline t := by
  rw [hasNewline_append]
  exact or_iff_right hs

theorem hasNewline_append_right {s t : String} (ht : ¬ HasNewline t) :
    HasNewline (s ++ t) ↔ HasNewline s := by
  rw [hasNewline_append]
  exact or_iff_left ht

theorem hasNewline_padRight {n : Nat} {s : String} :
    HasNewline (padRight n s) ↔ HasNewline s := by
  rw [padRight]
  exact hasNewline_append_right (by simp [HasNewline])

theorem hasNewline_padLeft {fill : Char} (hfill : fill ≠ '\n') {n : Nat}
    {s : String} : HasNewline (padLeft fill n s) ↔ HasNewline s := by
  rw [padLeft]
  exact hasNewline_append_left (by simp [HasNewline, hfill.symm])

/-- Numbers are on one line. -/
theorem not_hasNewline_repr (n : Nat) : ¬ HasNewline (Nat.repr n) := by
  unfold HasNewline
  rw [Nat.toList_repr]
  intro hmem
  have := Nat.isDigit_of_mem_toDigits (by omega) (by omega) hmem
  simp at this

theorem not_hasNewline_intRepr (i : Int) : ¬ HasNewline i.repr := by
  cases i with
  | ofNat n => exact not_hasNewline_repr n
  | negSucc n =>
      show ¬ HasNewline ("-" ++ Nat.repr (n + 1))
      rw [hasNewline_append_left (by simp [HasNewline])]
      exact not_hasNewline_repr _

-- ========================================================== the fields

theorem not_hasNewline_nowString (now : TimeOfDay) :
    ¬ HasNewline (nowString now) := by
  have hcolon : ¬ HasNewline ":" := by simp [HasNewline]
  have hdot : ¬ HasNewline "." := by simp [HasNewline]
  have hzero : '0' ≠ '\n' := by decide
  simp only [nowString, hasNewline_append, hasNewline_padLeft hzero,
    not_hasNewline_repr, hcolon, hdot, or_self, not_false_iff]

theorem not_hasNewline_resultString (ret : Int32) :
    ¬ HasNewline (resultString ret) := by
  unfold resultString
  split
  · simp [HasNewline]
  · rw [hasNewline_append_right (by simp [HasNewline]),
      hasNewline_append_left (by simp [HasNewline])]
    exact not_hasNewline_intRepr _

/-- Either reading of an address is on one line. -/
theorem not_hasNewline_ipToString (ip : Bytes16) :
    ¬ HasNewline (ipToString ip) := by
  by_cases hz : EndsInZeros ip
  · rw [ipToString_of_zeros hz]
    exact IpAddr.newline_notMem_toText (IpAddr.isCanonical_v4 _)
  · rw [ipToString_of_not_zeros hz]
    exact IpAddr.newline_notMem_toText (IpAddr.isCanonical_toCanonical _)

theorem not_hasNewline_endpoint (ip : Bytes16) (port : UInt16) :
    ¬ HasNewline (endpoint ip port) := by
  unfold endpoint
  rw [hasNewline_append_right (not_hasNewline_repr _),
    hasNewline_append_right (by simp [HasNewline])]
  exact not_hasNewline_ipToString ip

theorem not_hasNewline_asStr (event : EventType) :
    ¬ HasNewline event.asStr := by
  cases event <;> simp [HasNewline, EventType.asStr]

theorem not_hasNewline_arrow (event : EventType) :
    ¬ HasNewline (arrow event) := by
  unfold arrow
  split <;> simp [HasNewline]

theorem not_hasNewline_protocol (protocol : TransportProtocol) :
    ¬ HasNewline protocol.toText := by
  cases protocol <;> simp [HasNewline, TransportProtocol.toText]

/-- The name has no newline before its first NUL. -/
def CleanName (comm : Bytes16) : Prop :=
  0x0a ∉ comm.toList.takeWhile (· ≠ 0)

instance (comm : Bytes16) : Decidable (CleanName comm) :=
  inferInstanceAs (Decidable (¬ _))

/-- A name that is text, NULs behind it, is shown as it is. -/
theorem commToString_utf8 {comm : Bytes16} {name : String} {n : Nat}
    (hcomm : comm.toList = Json.utf8 name ++ List.replicate n 0)
    (hnul : 0 ∉ Json.utf8 name) : commToString comm = name := by
  have hcut : comm.toList.takeWhile (· ≠ 0) = Json.utf8 name := by
    rw [hcomm, List.takeWhile_append_of_pos]
    · cases n <;> simp [List.replicate_succ]
    · intro b hb
      simp only [decide_eq_true_eq]
      intro hzero
      exact hnul (hzero ▸ hb)
  rw [commToString, hcut, Utf8Lossy.fromUtf8Lossy_utf8]

/-- Cutting and decoding a name keep its newlines. -/
theorem hasNewline_commToString (comm : Bytes16) :
    HasNewline (commToString comm) ↔ ¬ CleanName comm := by
  unfold HasNewline commToString CleanName
  rw [Utf8Lossy.newline_mem_fromUtf8Lossy, not_not]

-- ============================================================ the line

/-- A line is broken by the name in it and by nothing else. -/
theorem hasNewline_eventLine (time : TimeOfDay) (event : NetEvent) :
    HasNewline (eventLine time event) ↔ ¬ CleanName event.comm := by
  have hspace : ¬ HasNewline " " := by simp [HasNewline]
  have hpid : ¬ HasNewline (padLeft ' ' 6 (Nat.repr event.pid.toNat)) := by
    rw [hasNewline_padLeft (by decide)]
    exact not_hasNewline_repr _
  have hresult : ¬ HasNewline (padRight 10 (resultString event.ret)) := by
    rw [hasNewline_padRight]
    exact not_hasNewline_resultString _
  have htime : ¬ HasNewline (padRight 12 (nowString time)) := by
    rw [hasNewline_padRight]
    exact not_hasNewline_nowString _
  unfold eventLine
  -- what stands behind the name, from the end of the line
  rw [hasNewline_append_right (not_hasNewline_endpoint _ _),
    hasNewline_append_right hspace,
    hasNewline_append_right (not_hasNewline_arrow _),
    hasNewline_append_right hspace,
    hasNewline_append_right (not_hasNewline_endpoint _ _),
    hasNewline_append_right hspace, hasNewline_append_right hresult,
    hasNewline_append_right hspace,
    hasNewline_append_right (not_hasNewline_asStr _),
    hasNewline_append_right hspace,
    hasNewline_append_right (not_hasNewline_protocol _),
    hasNewline_append_right hspace, hasNewline_append_right hpid,
    hasNewline_append_right hspace]
  -- and in front of it
  rw [hasNewline_append_left (fun h => htime
      ((hasNewline_append_right hspace).mp h)),
    hasNewline_padRight, hasNewline_commToString]

-- ============================================== from the hook to the line

section Hook

variable {e : Endian} {k : Kernel} {event event' : NetEvent} {sk : Sock}

/-- A call behind `map_err` and `?` that was not left early. -/
theorem mapError_bind_ok {ε ε' α β : Type} {x : Except ε α} {f : ε → ε'}
    {g : α → Except ε' β} {b : β} (h : x.mapError f >>= g = .ok b) :
    ∃ a, x = .ok a ∧ g a = .ok b := by
  cases x with
  | error err => cases h
  | ok a => exact ⟨a, rfl, h⟩

/-- An event in the ring has the name the kernel gave. -/
theorem emit_comm (h : emit e k event sk = .ok event') :
    k.currentComm = .ok event'.comm := by
  obtain ⟨proto, -, h⟩ := mapError_bind_ok h
  obtain ⟨filled, -, h⟩ := mapError_bind_ok h
  obtain ⟨comm, hcomm, h⟩ := mapError_bind_ok h
  obtain ⟨-, -, h⟩ := mapError_bind_ok h
  obtain rfl := Except.ok.inj h
  exact hcomm

/-- Whichever hook an event comes from, its line is broken by the name
of the task the hook ran in, and by nothing else. -/
theorem hooked_line_iff {ret : Int64} {newsk : Except UInt32 (Option Sock)}
    (h : tryTcpV4ConnectExit e k sk ret = .ok event'
      ∨ tryIncomingConnection e k newsk = .ok (some event'))
    (time : TimeOfDay) :
    ∃ comm, k.currentComm = .ok comm
      ∧ (HasNewline (eventLine time event') ↔ ¬ CleanName comm) := by
  refine ⟨event'.comm, ?_, hasNewline_eventLine time event'⟩
  rcases h with hconnect | haccept
  · exact emit_comm hconnect
  · rcases newsk with err | _ | newsk
    · cases haccept
    · cases haccept
    · have haccept : (emit e k (startEvent k newsk .accept) newsk >>=
          fun emitted => pure (some emitted)) = .ok (some event') := haccept
      cases hemit : emit e k (startEvent k newsk .accept) newsk with
      | error err =>
          rw [hemit] at haccept
          cases haccept
      | ok emitted =>
          rw [hemit] at haccept
          obtain rfl := Option.some.inj (Except.ok.inj haccept)
          exact emit_comm hemit

end Hook

-- ============================================================= the run

/-- The line of an event of a run. -/
def lineOf (item : Reading × NetEvent) : List Char :=
  (eventLine item.1.time item.2).toList

/-- The name is clean when the line it is in is one line. -/
theorem cleanName_iff (item : Reading × NetEvent) :
    CleanName item.2.comm ↔ '\n' ∉ lineOf item := by
  have hline : '\n' ∈ lineOf item ↔ ¬ CleanName item.2.comm :=
    hasNewline_eventLine item.1.time item.2
  rw [hline, not_not]

/-- What an event writes does not depend on the cache. -/
theorem printEvent_text (cache : ProcessCache) (item : Reading × NetEvent) :
    (printEvent cache item).2.toList = lineOf item ++ ['\n'] := by
  show (eventLine item.1.time item.2 ++ "\n").toList = _
  rw [String.toList_append]
  rfl

/-- The text of a run is its lines, each with its end. -/
theorem monitorText_eq (items : List (Reading × NetEvent)) :
    (monitorText items).toList
      = ['\n'].intercalate (items.map lineOf ++ [[]]) := by
  have hgen : ∀ cache : ProcessCache,
      (String.join (Machine.outputs printEvent cache items)).toList
        = ['\n'].intercalate (items.map lineOf ++ [[]]) := by
    induction items with
    | nil =>
        intro cache
        rfl
    | cons item items ih =>
        intro cache
        rw [Machine.outputs, String.join_cons, String.toList_append, ih,
          printEvent_text, List.map_cons, List.cons_append,
          List.intercalate_cons_of_ne_nil (by simp)]
  exact hgen .default

/-- One line an event: the lines of the text are those of the events, in
order, and every event writes one newline, at its end. -/
structure OneLineEach (items : List (Reading × NetEvent)) : Prop where
  lines : (monitorText items).toList.splitOn '\n'
    = items.map lineOf ++ [[]]
  once : ∀ cache, ∀ item ∈ items,
    (printEvent cache item).2.toList.count '\n' = 1
      ∧ (printEvent cache item).2.toList.getLast? = some '\n'

/-- Over every run, the log has one line an event exactly when no process
name has a newline before its first NUL. -/
theorem one_line_each_iff (items : List (Reading × NetEvent)) :
    OneLineEach items ↔ ∀ item ∈ items, CleanName item.2.comm := by
  constructor
  · intro hone item hitem
    obtain ⟨hcount, -⟩ := hone.once .default item hitem
    rw [printEvent_text, List.count_append] at hcount
    rw [cleanName_iff, ← List.count_eq_zero]
    simpa using hcount
  · intro hall
    constructor
    · rw [monitorText_eq]
      refine List.splitOn_intercalate '\n' ?_ (by simp)
      intro line hline
      rcases List.mem_append.mp hline with hline | hline
      · obtain ⟨item, hitem, rfl⟩ := List.mem_map.mp hline
        exact (cleanName_iff item).mp (hall item hitem)
      · rw [List.mem_singleton.mp hline]
        simp
    · intro cache item hitem
      have hno := (cleanName_iff item).mp (hall item hitem)
      rw [printEvent_text, List.count_append, List.count_eq_zero.mpr hno]
      simp

/-- A connection by a process that calls itself `x`, newline, `fake`. -/
def forgedEvent : NetEvent where
  pid := 42
  event := .connect
  protocol := .tcp
  comm := #v[0x78, 0x0a, 0x66, 0x61, 0x6b, 0x65, 0, 0, 0, 0, 0, 0, 0, 0, 0, 0]
  srcIp := #v[10, 0, 0, 1, 0, 0, 0, 0, 0, 0, 0, 0, 0, 0, 0, 0]
  dstIp := #v[10, 0, 0, 2, 0, 0, 0, 0, 0, 0, 0, 0, 0, 0, 0, 0]
  srcPort := 4000
  dstPort := 443

/-- One event, two lines, the second beginning as the process likes. -/
theorem forged_name_two_lines :
    (monitorText [(⟨⟨3723, 7⟩, 0, none, 0⟩, forgedEvent)]).toList.splitOn '\n'
      = ["01:02:03.007 x".toList,
        "fake               42 TCP CONNECT OK         10.0.0.1:4000 ─────▶ 10.0.0.2:443".toList,
        []] := by
  decide +kernel

end RustGuard
