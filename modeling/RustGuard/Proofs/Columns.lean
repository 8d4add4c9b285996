/-
The monitor's log, read back.

Nothing in a line is escaped, and a process can put blanks and newlines
into its name, enough of them to break the line in two. It still cannot
make the log say something else. The name is sixteen bytes and so at
most sixteen characters, and its column is sixteen wide: whatever stands
in it, it ends where it always ends. Every other column is a word
without blanks in it, filled up with blanks on one side, and the last
one ends at a newline it does not contain.

`log_reads_back` says so of whole runs: the text determines, event by
event and in order, the time of day, the name as its column shows it,
the process, the protocol, the kind of event, the result, and address
and port of both ends; and these determine the text.
-/
import RustGuard.Proofs.Lines
import RustGuard.Lib.Readable

namespace RustGuard

open Lib

-- ====================================================== what is shown

/-- The address a field is taken for. -/
def shownIp (ip : Bytes16) : IpAddr :=
  if (ip.toList.drop 4).all (· == 0) then .v4 (ofOctets (ip.take 4))
  else (IpAddr.v6 ⟨ip⟩).toCanonical

theorem ofOctets_take (ip : Bytes16) :
    ofOctets (ip.take 4) = ⟨ip.get 0, ip.get 1, ip.get 2, ip.get 3⟩ := by
  obtain ⟨⟨os⟩, hos⟩ := ip
  rw [List.size_toArray] at hos
  match os, hos with
  | [_, _, _, _, _, _, _, _, _, _, _, _, _, _, _, _], _ => rfl

theorem ipToString_eq (ip : Bytes16) :
    ipToString ip = (shownIp ip).toText := by
  unfold shownIp
  split
  · rename_i hz
    rw [ipToString_of_zeros hz, ofOctets_take]
  · rename_i hz
    exact ipToString_of_not_zeros hz

theorem isCanonical_shownIp (ip : Bytes16) : (shownIp ip).IsCanonical := by
  unfold shownIp
  split
  · exact IpAddr.isCanonical_v4 _
  · exact IpAddr.isCanonical_toCanonical _

/-- What the line of an event says. -/
structure Columns where
  /-- Seconds since midnight. -/
  secs : Nat
  millis : Nat
  /-- The name, cut, decoded and filled up to sixteen characters. -/
  name : String
  pid : UInt32
  protocol : TransportProtocol
  event : EventType
  ret : Int32
  src : IpAddr × UInt16
  dst : IpAddr × UInt16
  deriving DecidableEq

def columns (item : Reading × NetEvent) : Columns where
  secs := item.1.time.asSecs % 86400
  millis := item.1.time.subsecMillis
  name := padRight 16 (commToString item.2.comm)
  pid := item.2.pid
  protocol := item.2.protocol
  event := item.2.event
  ret := item.2.ret
  src := (shownIp item.2.srcIp, item.2.srcPort)
  dst := (shownIp item.2.dstIp, item.2.dstPort)

-- ============================================================= numbers

theorem toList_padRight (n : Nat) (text : String) :
    (padRight n text).toList
      = text.toList ++ List.replicate (n - text.length) ' ' := by
  rw [padRight, String.toList_append, String.toList_ofList]

theorem toList_padLeft (fill : Char) (n : Nat) (text : String) :
    (padLeft fill n text).toList
      = List.replicate (n - text.length) fill ++ text.toList := by
  rw [padLeft, String.toList_append, String.toList_ofList]

/-- What is no digit is not in a number. -/
theorem notMem_repr {c : Char} (hc : c.isDigit = false) (n : Nat) :
    c ∉ (Nat.repr n).toList := by
  intro hmem
  rw [Nat.toList_repr] at hmem
  have hdigit := Nat.isDigit_of_mem_toDigits (by omega) (by omega) hmem
  rw [hc] at hdigit
  cases hdigit

/-- Different numbers have different digits. -/
theorem toList_repr_inj {n m : Nat}
    (h : (Nat.repr n).toList = (Nat.repr m).toList) : n = m := by
  rw [Nat.toList_repr, Nat.toList_repr] at h
  have hread := congrArg (Nat.ofDigitChars 10 · 0) h
  simpa only [Nat.ofDigitChars_ten_toDigits] using hread

/-- A number comes back from its digits, zeros in front or none. -/
theorem ofDigitChars_padLeft (n m : Nat) :
    Nat.ofDigitChars 10 (padLeft '0' n (Nat.repr m)).toList 0 = m := by
  rw [toList_padLeft, Nat.ofDigitChars_append,
    Nat.ofDigitChars_replicate_zero, Nat.toList_repr, Nat.mul_zero,
    Nat.ofDigitChars_ten_toDigits]

/-- A number filled up with zeros, up to what ends it. -/
theorem readable_zeros (n : Nat) (stop : Char)
    (hstop : stop.isDigit = false) :
    Readable (fun m => (padLeft '0' n (Nat.repr m)).toList ++ [stop])
      (id : Nat → Nat) := by
  refine (readable_word ?_).imp ?_
  · intro m hmem
    rw [toList_padLeft, List.mem_append] at hmem
    rcases hmem with hmem | hmem
    · rw [List.eq_of_mem_replicate hmem] at hstop
      cases hstop
    · exact notMem_repr hstop m hmem
  · intro m m' heq
    rw [← ofDigitChars_padLeft n m, heq, ofDigitChars_padLeft]

-- ========================================================= the columns

/-- What fills up a column behind its text follows from the text, and
the blank behind the column might as well stand in front of it. -/
theorem readable_padRight {α β : Type} {text : α → String} {shown : α → β}
    (h : Readable (fun a => (text a).toList ++ [' ']) shown)
    (htext : ∀ a a', shown a = shown a' → text a = text a') (n : Nat) :
    Readable (fun a => (padRight n (text a)).toList ++ [' ']) shown := by
  have hfilled : Readable (fun a => (text a).toList ++ [' ']
      ++ List.replicate (n - (text a).length) ' ') shown :=
    h.follow fun a a' heq => by rw [htext a a' heq]
  refine hfilled.congr fun a => ?_
  rw [toList_padRight, List.append_assoc, List.append_assoc,
    ← List.replicate_succ', List.replicate_succ]
  rfl

/-- The time of day from its four numbers. -/
theorem readable_clock :
    Readable (fun time => (nowString time).toList ++ [' '])
      fun time : TimeOfDay => (time.asSecs % 86400, time.subsecMillis) := by
  have hcolon := readable_zeros 2 ':' rfl
  have hhour := hcolon.comp fun time : TimeOfDay =>
    time.asSecs % 86400 / 3600
  have hminute := hcolon.comp fun time : TimeOfDay =>
    time.asSecs % 86400 / 60 % 60
  have hsecond := (readable_zeros 2 '.' rfl).comp fun time : TimeOfDay =>
    time.asSecs % 86400 % 60
  have hmilli := (readable_zeros 3 ' ' rfl).comp fun time : TimeOfDay =>
    time.subsecMillis
  have hall := ((hhour.append hminute).append hsecond).append hmilli
  refine (hall.imp ?_).congr ?_
  · intro time time' heq
    simp only [id, Prod.mk.injEq] at heq
    obtain ⟨⟨⟨hh, hm⟩, hs⟩, hms⟩ := heq
    refine Prod.ext ?_ hms
    show time.asSecs % 86400 = time'.asSecs % 86400
    omega
  · intro time
    simp only [nowString, String.toList_append, List.append_assoc]
    rfl

/-- The time column. -/
theorem readable_time :
    Readable (fun time => (padRight 12 (nowString time)).toList ++ [' '])
      fun time : TimeOfDay => (time.asSecs % 86400, time.subsecMillis) := by
  refine readable_padRight readable_clock ?_ 12
  intro time time' heq
  obtain ⟨hsecs, hmillis⟩ := Prod.mk.inj heq
  rw [nowString, nowString, hsecs, hmillis]

/-- The name column: sixteen characters, whatever they are. -/
theorem readable_name :
    Readable (fun comm => (padRight 16 (commToString comm)).toList ++ [' '])
      fun comm : Bytes16 => padRight 16 (commToString comm) := by
  have hshort : ∀ comm : Bytes16, (commToString comm).length ≤ 16 := by
    intro comm
    calc (commToString comm).length
        ≤ (comm.toList.takeWhile (· ≠ 0)).length :=
          Utf8Lossy.length_fromUtf8Lossy_le _
      _ ≤ comm.toList.length := (List.takeWhile_prefix _).length_le
      _ = 16 := Vector.length_toList
  have hlen : ∀ comm, (padRight 16 (commToString comm)).toList.length
      = 16 := by
    intro comm
    have := hshort comm
    rw [toList_padRight, List.length_append, List.length_replicate,
      String.length_toList]
    omega
  have hname : Readable _ fun comm => padRight 16 (commToString comm) :=
    (readable_fixed hlen).imp fun comm comm' heq =>
      String.toList_inj.mp heq
  exact hname.follow fun _ _ _ => rfl

/-- The column of the process: blanks, digits, a blank. -/
theorem readable_pid :
    Readable
      (fun pid => (padLeft ' ' 6 (Nat.repr pid.toNat)).toList ++ [' '])
      (id : UInt32 → UInt32) := by
  have hword : Readable (fun pid : UInt32 =>
      (Nat.repr pid.toNat).toList ++ [' ']) (id : UInt32 → UInt32) := by
    refine (readable_word fun pid => notMem_repr rfl _).imp ?_
    intro pid pid' heq
    exact UInt32.toNat_inj.mp (toList_repr_inj heq)
  have hhead : ∀ pid : UInt32, ∃ c cs,
      (Nat.repr pid.toNat).toList ++ [' '] = c :: cs ∧ c ≠ ' ' := by
    intro pid
    cases hdigits : (Nat.repr pid.toNat).toList with
    | nil =>
        rw [Nat.toList_repr] at hdigits
        exact absurd hdigits Nat.toDigits_ne_nil
    | cons c cs =>
        refine ⟨c, cs ++ [' '], rfl, ?_⟩
        rintro rfl
        exact notMem_repr rfl pid.toNat (hdigits ▸ List.mem_cons_self)
  refine (hword.fill (fun pid => 6 - (Nat.repr pid.toNat).length) ' '
    hhead).congr fun pid => ?_
  rw [toList_padLeft, List.append_assoc]

/-- A word of its own. -/
theorem readable_plain {α : Type} {text : α → String}
    (hblank : ∀ a, ' ' ∉ (text a).toList)
    (hinj : Function.Injective text) :
    Readable (fun a => (text a).toList ++ [' ']) (id : α → α) :=
  (readable_word hblank).imp fun _ _ heq => hinj (String.toList_inj.mp heq)

theorem readable_protocol :
    Readable (fun protocol => protocol.toText.toList ++ [' '])
      (id : TransportProtocol → TransportProtocol) := by
  refine readable_plain ?_ ?_
  · intro protocol
    cases protocol <;> simp [TransportProtocol.toText]
  · intro protocol protocol' heq
    cases protocol <;> cases protocol' <;>
      simp [TransportProtocol.toText] at heq ⊢

theorem readable_event :
    Readable (fun event => event.asStr.toList ++ [' '])
      (id : EventType → EventType) := by
  refine readable_plain ?_ ?_
  · intro event
    cases event <;> simp [EventType.asStr]
  · intro event event' heq
    cases event <;> cases event' <;> simp [EventType.asStr] at heq ⊢

theorem notMem_intRepr {c : Char} (hc : c.isDigit = false) (hminus : c ≠ '-')
    (i : Int) : c ∉ i.repr.toList := by
  cases i with
  | ofNat n => exact notMem_repr hc n
  | negSucc n =>
      show c ∉ ("-" ++ Nat.repr (n + 1)).toList
      rw [String.toList_append, List.mem_append]
      rintro (hmem | hmem)
      · exact hminus (List.mem_singleton.mp hmem)
      · exact notMem_repr hc _ hmem

/-- Different integers too: a sign is no digit. -/
theorem toList_intRepr_inj {i j : Int}
    (h : i.repr.toList = j.repr.toList) : i = j := by
  have hneg : ∀ n, (Int.negSucc n).repr.toList
      = '-' :: (Nat.repr (n + 1)).toList := by
    intro n
    show ("-" ++ Nat.repr (n + 1)).toList = _
    rw [String.toList_append]
    rfl
  have hsign : ∀ n m, (Nat.repr n).toList ≠ (Int.negSucc m).repr.toList := by
    intro n m heq
    refine notMem_repr (c := '-') rfl n ?_
    rw [heq, hneg]
    exact List.mem_cons_self
  cases i with
  | ofNat n =>
      cases j with
      | ofNat m => exact congrArg Int.ofNat (toList_repr_inj h)
      | negSucc m => exact absurd h (hsign n m)
  | negSucc n =>
      cases j with
      | ofNat m => exact absurd h.symm (hsign m n)
      | negSucc m =>
          rw [hneg, hneg, List.cons.injEq] at h
          have hnum := toList_repr_inj h.2
          rw [Nat.succ.inj hnum]

theorem resultString_injective : Function.Injective resultString := by
  have herr : ∀ ret : Int32, ret ≠ 0 →
      (resultString ret).toList = "ERR(".toList ++ ret.toInt.repr.toList
        ++ [')'] := by
    intro ret hne
    rw [resultString, if_neg hne, String.toList_append,
      String.toList_append]
    rfl
  have hok : ∀ ret : Int32, ret ≠ 0 → resultString ret ≠ "OK" := by
    intro ret hne heq
    have htext := congrArg String.toList heq
    rw [herr ret hne] at htext
    cases htext
  intro ret ret' heq
  by_cases hz : ret = 0
  · by_contra hne
    have hz' : ret' ≠ 0 := fun hz' => hne (hz.trans hz'.symm)
    exact hok ret' hz' (heq.symm.trans (if_pos hz))
  · by_cases hz' : ret' = 0
    · exact absurd (heq.trans (if_pos hz')) (hok ret hz)
    · have htext := congrArg String.toList heq
      rw [herr ret hz, herr ret' hz'] at htext
      have hnum := List.append_cancel_left (List.append_cancel_right htext)
      exact Int32.toInt_inj.mp (toList_intRepr_inj hnum)

/-- The column of the result. -/
theorem readable_result :
    Readable (fun ret => (padRight 10 (resultString ret)).toList ++ [' '])
      (id : Int32 → Int32) := by
  refine readable_padRight (readable_plain ?_ ?_) ?_ 10
  · intro ret
    unfold resultString
    split
    · simp
    · have hnum := notMem_intRepr (c := ' ') rfl (by simp) ret.toInt
      simp [hnum]
  · exact resultString_injective
  · rintro ret ret' rfl
    rfl

/-- An end, up to what ends it: neither address nor port has a blank or a
newline in it. -/
theorem readable_end (stop : Char) (hstop : stop.isAlphanum = false)
    (hdot : stop ≠ '.') (hcolon : stop ≠ ':') :
    Readable (fun p : Bytes16 × UInt16 => (endpoint p.1 p.2).toList ++ [stop])
      fun p => (shownIp p.1, p.2) := by
  refine (readable_word ?_).imp ?_
  · rintro ⟨ip, port⟩ hmem
    have hdigit : stop.isDigit = false := by
      rw [Char.isAlphanum, Bool.or_eq_false_iff] at hstop
      exact hstop.2
    rw [endpoint, ipToString_eq, String.toList_append,
      String.toList_append, List.mem_append, List.mem_append] at hmem
    rcases hmem with (hmem | hmem) | hmem
    · rcases IpAddr.mem_toText (isCanonical_shownIp ip) hmem
        with hmem | hmem | hmem
      · rw [hstop] at hmem
        cases hmem
      · exact hdot hmem
      · exact hcolon hmem
    · exact hcolon (List.mem_singleton.mp hmem)
    · exact notMem_repr hdigit _ hmem
  · rintro ⟨ip, port⟩ ⟨ip', port'⟩ heq
    have heq := String.toList_inj.mp heq
    rw [endpoint, endpoint, ipToString_eq, ipToString_eq] at heq
    obtain ⟨hip, hport⟩ := IpAddr.toText_port_inj (isCanonical_shownIp ip)
      (isCanonical_shownIp ip') heq
    exact Prod.ext hip (UInt16.toNat_inj.mp hport)

-- ============================================================ the line

/-- A line, its end included, is its columns. -/
theorem lineOf_eq (item : Reading × NetEvent) :
    lineOf item ++ ['\n']
      = ((padRight 12 (nowString item.1.time)).toList ++ [' '])
        ++ (((padRight 16 (commToString item.2.comm)).toList ++ [' '])
        ++ (((padLeft ' ' 6 (Nat.repr item.2.pid.toNat)).toList ++ [' '])
        ++ ((item.2.protocol.toText.toList ++ [' '])
        ++ ((item.2.event.asStr.toList ++ [' '])
        ++ (((padRight 10 (resultString item.2.ret)).toList ++ [' '])
        ++ (((endpoint item.2.srcIp item.2.srcPort).toList ++ [' '])
        ++ ((arrow item.2.event).toList ++ [' ']
        ++ ((endpoint item.2.dstIp item.2.dstPort).toList
          ++ ['\n'])))))))) := by
  simp only [lineOf, eventLine, String.toList_append, List.append_assoc]
  rfl

/-- A line says its columns, whatever comes behind it. -/
theorem readable_line :
    Readable (fun item => lineOf item ++ ['\n']) columns := by
  have harrow : Readable (fun event => (arrow event).toList ++ [' '])
      fun _ : EventType => () :=
    (readable_word fun event => by
      unfold arrow
      split <;> simp).imp fun _ _ _ => rfl
  have hsrc := readable_end ' ' rfl (by simp) (by simp)
  have hdst := readable_end '\n' rfl (by simp) (by simp)
  have hall := (readable_time.comp fun item : Reading × NetEvent =>
      item.1.time).append
    ((readable_name.comp fun item => item.2.comm).append
    ((readable_pid.comp fun item => item.2.pid).append
    ((readable_protocol.comp fun item => item.2.protocol).append
    ((readable_event.comp fun item => item.2.event).append
    ((readable_result.comp fun item => item.2.ret).append
    ((hsrc.comp fun item => (item.2.srcIp, item.2.srcPort)).append
    ((harrow.comp fun item => item.2.event).append
    (hdst.comp fun item => (item.2.dstIp, item.2.dstPort)))))))))
  refine (hall.imp ?_).congr lineOf_eq
  intro item item' heq
  simp only [id, Prod.mk.injEq] at heq
  obtain ⟨⟨hsecs, hmillis⟩, hname, hpid, hproto, hevent, hret,
    ⟨hsip, hsport⟩, -, hdip, hdport⟩ := heq
  simp only [columns, hsecs, hmillis, hname, hpid, hproto, hevent, hret,
    hsip, hsport, hdip, hdport]

/-- And its columns say the line. -/
theorem lineOf_congr {item item' : Reading × NetEvent}
    (h : columns item = columns item') : lineOf item = lineOf item' := by
  simp only [columns, Columns.mk.injEq, Prod.mk.injEq] at h
  obtain ⟨hsecs, hmillis, hname, hpid, hproto, hevent, hret,
    ⟨hsip, hsport⟩, hdip, hdport⟩ := h
  simp only [lineOf, eventLine, nowString, endpoint, ipToString_eq, hsecs,
    hmillis, hname, hpid, hproto, hevent, hret, hsip, hsport, hdip, hdport]

-- ============================================================= the run

/-- The text of a run is its lines, ends included, one behind the
other. -/
theorem monitorText_flatMap (items : List (Reading × NetEvent)) :
    (monitorText items).toList
      = items.flatMap fun item => lineOf item ++ ['\n'] := by
  rw [monitorText_eq]
  induction items with
  | nil => rfl
  | cons item items ih =>
      rw [List.map_cons, List.cons_append,
        List.intercalate_cons_of_ne_nil (by simp), ih, List.flatMap_cons]

/-- Whatever the processes call themselves, the monitor's text of a run
says, event by event, what the columns hold, and nothing more: two runs
are written alike exactly when their events show the same. -/
theorem log_reads_back (items items' : List (Reading × NetEvent)) :
    monitorText items = monitorText items'
      ↔ items.map columns = items'.map columns := by
  constructor
  · intro heq
    refine readable_line.flatMap (by simp) ?_
    rw [← monitorText_flatMap, ← monitorText_flatMap, heq]
  · intro heq
    apply String.toList_inj.mp
    rw [monitorText_flatMap, monitorText_flatMap]
    induction items generalizing items' with
    | nil =>
        rw [List.map_eq_nil_iff.mp heq.symm]
    | cons item items ih =>
        cases items' with
        | nil => cases heq
        | cons item' items' =>
            obtain ⟨hitem, hitems⟩ := List.cons.inj heq
            rw [List.flatMap_cons, List.flatMap_cons, ih items' hitems,
              lineOf_congr hitem]

end RustGuard
