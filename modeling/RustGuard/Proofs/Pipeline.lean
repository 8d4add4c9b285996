/-
From the hooks to the terminal: every event once, in order, unchanged.

# The struct

An event reads back from the bytes the hook wrote, whatever lay in the
padding and whichever way round the host is (`ofBytes?_toBytes`). The
monitor checks no more than the length of what it casts, and by itself
this is not enough: of the bytes that are long enough the events are
those whose three enum bytes have a variant, and the cast of any others
is undefined (`cast_sound_iff`). What makes the cast sound is that only
the hooks write to the ring.

# The run

`Carries` is the account of a run: the events the ring has taken are
those printed and those unread, in this order, and the text is the text
of the printed ones. Every step keeps it (`Carries.step`): a hook adds
at the one end, the loop body moves one event across, and that hooks run
while the body has its item does not matter, since the item is the
oldest record until it is given back.

# The room

All records are of one size, so the ring holds a fixed number of them,
and an event is lost exactly when that many are unread (`taken_iff`).
-/
import RustGuard.Pipeline
import RustGuard.Proofs.Lines

namespace RustGuard

open Lib Lib.Layout

-- ================================================= the struct in memory

theorem EventType.ofDiscriminant?_discriminant (event : EventType) :
    EventType.ofDiscriminant? event.discriminant = some event := by
  cases event <;> rfl

theorem EventType.discriminant_lt (event : EventType) :
    event.discriminant < 2 ^ (8 * 1) := by
  cases event <;> decide

theorem TransportProtocol.ofDiscriminant?_discriminant
    (protocol : TransportProtocol) :
    TransportProtocol.ofDiscriminant? protocol.discriminant
      = some protocol := by
  cases protocol <;> rfl

theorem TransportProtocol.discriminant_lt (protocol : TransportProtocol) :
    protocol.discriminant < 2 ^ (8 * 1) := by
  cases protocol <;> decide

theorem Direction.ofDiscriminant?_discriminant (direction : Direction) :
    Direction.ofDiscriminant? direction.discriminant = some direction := by
  cases direction <;> rfl

theorem Direction.discriminant_lt (direction : Direction) :
    direction.discriminant < 2 ^ (8 * 1) := by
  cases direction <;> decide

theorem bytes16?_toList (bytes : Bytes16) :
    bytes16? bytes.toList = some bytes := by
  rw [bytes16?, dif_pos bytes.length_toList]
  rfl

section Struct

variable (e : Endian) (pad : Nat → UInt8) (event : NetEvent)

/-- The two descriptions of the struct are of one struct. -/
theorem map_toField_values :
    (event.values e).map Value.toField = netEventFields := rfl

/-- A record is as long as the monitor wants it. -/
theorem length_toBytes : (event.toBytes e pad).length = netEventSize := by
  rw [NetEvent.toBytes, length_bytesOf, map_toField_values]
  rfl

/-- What a record takes up in the ring. -/
theorem recordSize_toBytes : recordSize (event.toBytes e pad) = 96 := by
  rw [recordSize, length_toBytes]
  rfl

/-- An event reads back from its bytes. -/
theorem ofBytes?_toBytes :
    NetEvent.ofBytes? e (event.toBytes e pad) = some event := by
  have hread : fieldsOf netEventFields (event.toBytes e pad)
      = (event.values e).map Value.bytes :=
    fieldsOf_bytesOf pad (event.values e)
  have hword : ∀ {w n : Nat} (h : 0 < w), n < 2 ^ (8 * w) →
      ofNeBytes e (wordValue e w n h).bytes = n :=
    fun _ hn => ofNeBytes_neBytes e hn
  have hu64 : ∀ (n : UInt64) h,
      ofNeBytes e (wordValue e 8 n.toNat h).bytes = n.toNat :=
    fun n h => hword h n.toNat_lt
  have hu32 : ∀ (n : UInt32) h,
      ofNeBytes e (wordValue e 4 n.toNat h).bytes = n.toNat :=
    fun n h => hword h n.toNat_lt
  have hu16 : ∀ (n : UInt16) h,
      ofNeBytes e (wordValue e 2 n.toNat h).bytes = n.toNat :=
    fun n h => hword h n.toNat_lt
  have harray : ∀ bytes : Bytes16,
      bytes16? (arrayValue bytes).bytes = some bytes := bytes16?_toList
  unfold NetEvent.ofBytes?
  rw [hread]
  simp only [NetEvent.values, List.map_cons, List.map_nil, harray, hu64,
    hu32, hu16, hword _ event.event.discriminant_lt,
    hword _ event.protocol.discriminant_lt,
    hword _ event.direction.discriminant_lt,
    EventType.ofDiscriminant?_discriminant,
    TransportProtocol.ofDiscriminant?_discriminant,
    Direction.ofDiscriminant?_discriminant, UInt64.ofNat_toNat,
    UInt32.ofNat_toNat, UInt16.ofNat_toNat, Int32.toInt32_toUInt32,
    Option.bind_eq_bind, Option.bind_some]
  rfl

variable {e event} {bytes : List UInt8}

/-- An enum is read from its own byte. -/
theorem EventType.discriminant_of {n : Nat} {event : EventType}
    (h : EventType.ofDiscriminant? n = some event) :
    event.discriminant = n := by
  unfold EventType.ofDiscriminant? at h
  split at h <;> cases h <;> rfl

theorem TransportProtocol.discriminant_of {n : Nat}
    {protocol : TransportProtocol}
    (h : TransportProtocol.ofDiscriminant? n = some protocol) :
    protocol.discriminant = n := by
  unfold TransportProtocol.ofDiscriminant? at h
  split at h <;> cases h <;> rfl

theorem Direction.discriminant_of {n : Nat} {direction : Direction}
    (h : Direction.ofDiscriminant? n = some direction) :
    direction.discriminant = n := by
  unfold Direction.ofDiscriminant? at h
  split at h <;> cases h <;> rfl

theorem toList_of_bytes16? {array : Bytes16} (h : bytes16? bytes = some array) :
    array.toList = bytes := by
  unfold bytes16? at h
  split at h
  · obtain rfl := Option.some.inj h
    rfl
  · cases h

/-- A word is laid out as it was. -/
theorem neBytes_of_length {w : Nat} (hlen : bytes.length = w) :
    neBytes e w (ofNeBytes e bytes) = bytes := by
  rw [← hlen]
  exact neBytes_ofNeBytes e bytes

/-- Where the fields lie. -/
theorem fieldsOf_netEventFields (bytes : List UInt8) :
    fieldsOf netEventFields bytes
      = [slice 0 8 bytes, slice 8 8 bytes, slice 16 4 bytes,
        slice 20 4 bytes, slice 24 4 bytes, slice 28 1 bytes,
        slice 29 1 bytes, slice 30 1 bytes, slice 31 16 bytes,
        slice 47 16 bytes, slice 63 16 bytes, slice 80 2 bytes,
        slice 82 2 bytes, slice 84 4 bytes] := rfl

/-- What the cast takes the fields for is what lies in them. -/
theorem fieldsOf_of_ofBytes? (hlen : bytes.length = netEventSize)
    (h : NetEvent.ofBytes? e bytes = some event) :
    fieldsOf netEventFields bytes = (event.values e).map Value.bytes := by
  have hsize : bytes.length = 88 := hlen
  have hslice : ∀ {off len}, off + len ≤ 88 →
      (slice off len bytes).length = len := by
    intro off len hle
    exact length_slice (by omega)
  have hword : ∀ {off len}, off + len ≤ 88 →
      neBytes e len (ofNeBytes e (slice off len bytes))
        = slice off len bytes :=
    fun hle => neBytes_of_length (hslice hle)
  have hlt : ∀ {off len}, off + len ≤ 88 →
      ofNeBytes e (slice off len bytes) < 2 ^ (8 * len) := by
    intro off len hle
    have := ofNeBytes_lt e (slice off len bytes)
    rwa [hslice hle] at this
  have hu64 : ∀ {off}, off + 8 ≤ 88 →
      (UInt64.ofNat (ofNeBytes e (slice off 8 bytes))).toNat
        = ofNeBytes e (slice off 8 bytes) :=
    fun hle => UInt64.toNat_ofNat_of_lt' (hlt hle)
  have hu32 : ∀ {off}, off + 4 ≤ 88 →
      (UInt32.ofNat (ofNeBytes e (slice off 4 bytes))).toNat
        = ofNeBytes e (slice off 4 bytes) :=
    fun hle => UInt32.toNat_ofNat_of_lt' (hlt hle)
  have hu16 : ∀ {off}, off + 2 ≤ 88 →
      (UInt16.ofNat (ofNeBytes e (slice off 2 bytes))).toNat
        = ofNeBytes e (slice off 2 bytes) :=
    fun hle => UInt16.toNat_ofNat_of_lt' (hlt hle)
  unfold NetEvent.ofBytes? at h
  rw [fieldsOf_netEventFields] at h ⊢
  simp only [Option.bind_eq_bind, Option.bind_eq_some_iff, Option.pure_def,
    Option.some.injEq] at h
  obtain ⟨kind, hkind, protocol, hprotocol, direction, hdirection,
    comm, hcomm, srcIp, hsrcIp, dstIp, hdstIp, rfl⟩ := h
  simp (disch := omega) only [NetEvent.values, List.map_cons, List.map_nil,
    wordValue, arrayValue, hu64, hu32, hu16, UInt32.toUInt32_toInt32,
    EventType.discriminant_of hkind,
    TransportProtocol.discriminant_of hprotocol,
    Direction.discriminant_of hdirection, toList_of_bytes16? hcomm,
    toList_of_bytes16? hsrcIp, toList_of_bytes16? hdstIp, hword]

/-- The enum bytes `event`, `protocol` and `direction` each hold a
variant. -/
def EnumBytes (bytes : List UInt8) : Prop :=
  (bytes.getD 28 0).toNat ≤ 8
    ∧ (bytes.getD 29 0).toNat ∈ [0, 6, 17]
    ∧ (bytes.getD 30 0).toNat ≤ 2

theorem EventType.isSome_ofDiscriminant? (n : Nat) :
    (EventType.ofDiscriminant? n).isSome ↔ n ≤ 8 := by
  unfold EventType.ofDiscriminant?
  split <;> grind

theorem TransportProtocol.isSome_ofDiscriminant? (n : Nat) :
    (TransportProtocol.ofDiscriminant? n).isSome ↔ n ∈ [0, 6, 17] := by
  unfold TransportProtocol.ofDiscriminant?
  split <;> grind

theorem Direction.isSome_ofDiscriminant? (n : Nat) :
    (Direction.ofDiscriminant? n).isSome ↔ n ≤ 2 := by
  unfold Direction.ofDiscriminant?
  split <;> grind

/-- A field of one byte is that byte, on either kind of host. -/
theorem ofNeBytes_slice_one {off : Nat} (h : off < bytes.length) :
    ofNeBytes e (slice off 1 bytes) = (bytes.getD off 0).toNat := by
  have hslice : slice off 1 bytes = [bytes.getD off 0] := by
    rw [slice, List.drop_eq_getElem_cons h, List.take_succ_cons,
      List.take_zero, List.getD_eq_getElem?_getD, List.getElem?_eq_getElem h,
      Option.getD_some]
  rw [hslice]
  cases e with
  | little => rfl
  | big => rfl

/-- The cast finds an event where the enum bytes allow one. -/
theorem isSome_ofBytes? (hlen : bytes.length = netEventSize) :
    (NetEvent.ofBytes? e bytes).isSome ↔ EnumBytes bytes := by
  have hsize : bytes.length = 88 := hlen
  have harray : ∀ {off}, off + 16 ≤ 88 →
      ∃ array, bytes16? (slice off 16 bytes) = some array := by
    intro off hle
    have hlen16 : (slice off 16 bytes).length = 16 :=
      length_slice (by omega)
    exact ⟨_, dif_pos hlen16⟩
  obtain ⟨comm, hcomm⟩ := @harray 31 (by omega)
  obtain ⟨srcIp, hsrcIp⟩ := @harray 47 (by omega)
  obtain ⟨dstIp, hdstIp⟩ := @harray 63 (by omega)
  rw [EnumBytes, ← EventType.isSome_ofDiscriminant?,
    ← TransportProtocol.isSome_ofDiscriminant?,
    ← Direction.isSome_ofDiscriminant?,
    ← @ofNeBytes_slice_one e bytes 28 (by omega),
    ← @ofNeBytes_slice_one e bytes 29 (by omega),
    ← @ofNeBytes_slice_one e bytes 30 (by omega)]
  unfold NetEvent.ofBytes?
  rw [fieldsOf_netEventFields]
  simp only [hcomm, hsrcIp, hdstIp, Option.bind_eq_bind, Option.bind_some]
  cases EventType.ofDiscriminant? (ofNeBytes e (slice 28 1 bytes)) with
  | none => simp
  | some kind =>
      cases TransportProtocol.ofDiscriminant?
          (ofNeBytes e (slice 29 1 bytes)) with
      | none => simp
      | some protocol =>
          cases Direction.ofDiscriminant?
              (ofNeBytes e (slice 30 1 bytes)) with
          | none => simp
          | some direction => simp

/-- Where the cast finds an event, the bytes are this event, with what
they have in the padding. -/
theorem eq_toBytes_of_ofBytes? (hlen : bytes.length = netEventSize)
    (h : NetEvent.ofBytes? e bytes = some event) :
    bytes = event.toBytes e (padOf bytes) := by
  have hread := fieldsOf_of_ofBytes? hlen h
  rw [← map_toField_values e event] at hread
  exact eq_bytesOf hlen hread

/-- Whether bytes are an event. -/
theorem exists_toBytes_iff :
    (∃ event pad, bytes = NetEvent.toBytes e pad event)
      ↔ bytes.length = netEventSize ∧ EnumBytes bytes := by
  constructor
  · rintro ⟨event, pad, rfl⟩
    have hlen := length_toBytes e pad event
    rw [← @isSome_ofBytes? e _ hlen, ofBytes?_toBytes]
    exact ⟨hlen, rfl⟩
  · rintro ⟨hlen, henum⟩
    obtain ⟨event, h⟩ := Option.isSome_iff_exists.mp
      ((@isSome_ofBytes? e _ hlen).mpr henum)
    exact ⟨event, padOf bytes, eq_toBytes_of_ofBytes? hlen h⟩

end Struct

/-- Bytes of any kind in the ring: they are an event exactly when they
pass the monitor's check AND each enum byte holds a variant; if they are,
the loop body prints the line of the event they were written from; if
they pass the check and are not, its cast is undefined. -/
theorem cast_sound_iff (e : Endian) (bytes : List UInt8) :
    ((∃ event pad, bytes = NetEvent.toBytes e pad event)
      ↔ bytes.length = netEventSize ∧ EnumBytes bytes)
    ∧ ∀ (p : Pipe) (reading : Reading), p.held = true →
        p.ring.next = some bytes → p.invalid = false →
        (∀ event pad, bytes = event.toBytes e pad →
          (p.body e reading).text
            = p.text ++ (printEvent p.cache (reading, event)).2)
        ∧ ((p.body e reading).invalid = true
          ↔ bytes.length = netEventSize ∧ ¬ EnumBytes bytes) := by
  refine ⟨exists_toBytes_iff, fun p reading hheld hnext hvalid => ⟨?_, ?_⟩⟩
  · rintro event pad rfl
    rw [Pipe.body, hheld, hnext]
    simp only [length_toBytes, ne_eq, not_true_eq_false, if_false,
      ofBytes?_toBytes]
  · by_cases hlen : bytes.length = netEventSize
    · rw [← @isSome_ofBytes? e _ hlen, Pipe.body, hheld, hnext]
      cases hcast : NetEvent.ofBytes? e bytes with
      | none => simp [hlen, hcast]
      | some event => simp [hlen, hcast, hvalid]
    · rw [Pipe.body, hheld, hnext]
      simp [hlen, hvalid]

/-- Eighty-eight bytes whose event type is 9: the check lets them
pass. -/
theorem cast_sound_iff_nine :
    let bytes : List UInt8 :=
      List.replicate 28 0 ++ 9 :: List.replicate 59 0
    bytes.length = netEventSize
    ∧ (¬ ∃ event pad, bytes = NetEvent.toBytes .little pad event)
    ∧ ∃ p : Pipe, p.ring.next = some bytes
      ∧ ∀ reading, (p.body .little reading).invalid = true := by
  intro bytes
  have hlen : bytes.length = netEventSize := by decide
  have henum : ¬ EnumBytes bytes := by
    rintro ⟨hkind, -, -⟩
    revert hkind
    decide
  obtain ⟨hevent, hbody⟩ := cast_sound_iff .little bytes
  refine ⟨hlen, fun h => henum (hevent.mp h).2, ?_⟩
  -- the ring with this one record, and the loop about to read it
  let p : Pipe := { Pipe.init with
    ring := (Pipe.init.ring.output bytes).1
    held := true }
  have hnext : p.ring.next = some bytes := by decide
  exact ⟨p, hnext, fun reading =>
    ((hbody p reading rfl hnext rfl).2).mpr ⟨hlen, henum⟩⟩

-- ============================================================ the hooks

section Hook

variable {e : Endian} {p : Pipe} {run : HookRun} {event : NetEvent}

/-- A hook whose event the ring would have taken fails when it does
not. -/
theorem emit_refused {k : Kernel} {sk : Sock} {event' : NetEvent}
    (h : emit e { k with ringOutput := .ok () } event sk = .ok event')
    (err : Int64) :
    emit e { k with ringOutput := .error err } event sk
      = .error (errno err) := by
  obtain ⟨proto, hproto, h⟩ := mapError_bind_ok h
  obtain ⟨filled, hfilled, h⟩ := mapError_bind_ok h
  obtain ⟨comm, hcomm, -⟩ := mapError_bind_ok h
  have hcomm : k.currentComm = .ok comm := hcomm
  unfold emit
  rw [hproto]
  show (fillSocket e _ sk).mapError errno >>= _ = _
  rw [hfilled]
  show k.currentComm.mapError _ >>= _ = _
  rw [hcomm]
  rfl

/-- An event that is offered is what the hook reports, if it is taken. -/
theorem result_offer (h : run.offer e = some event)
    (ringOutput : Except Int64 Unit) :
    run.result e ringOutput = match ringOutput with
      | .ok () => .ok (some event)
      | .error err => .error (errno err) := by
  have hok : run.result e (.ok ()) = .ok (some event) := by
    unfold HookRun.offer at h
    cases hresult : run.result e (.ok ()) with
    | error err =>
        rw [hresult] at h
        cases h
    | ok event' =>
        rw [hresult] at h
        exact congrArg Except.ok h
  cases ringOutput with
  | ok u => exact hok
  | error err =>
      cases run with
      | connect k sk ret =>
          cases hemit : tryTcpV4ConnectExit e
              { k with ringOutput := .ok () } sk ret with
          | error err =>
              rw [HookRun.result, hemit] at hok
              cases hok
          | ok emitted =>
              have hrefused : tryTcpV4ConnectExit e
                  { k with ringOutput := .error err } sk ret
                  = .error (errno err) := emit_refused hemit err
              rw [HookRun.result, hrefused]
              rfl
      | accept k newsk =>
          rcases newsk with code | _ | newsk
          · cases hok
          · cases hok
          · cases hemit : emit e { k with ringOutput := .ok () }
                (startEvent k newsk .accept) newsk with
            | error code =>
                have hok : (emit e { k with ringOutput := .ok () }
                  (startEvent k newsk .accept) newsk >>= fun emitted =>
                    pure (some emitted)) = .ok (some event) := hok
                rw [hemit] at hok
                cases hok
            | ok emitted =>
                show (emit e { k with ringOutput := .error err }
                  (startEvent k newsk .accept) newsk >>= fun emitted =>
                    pure (some emitted)) = .error (errno err)
                rw [emit_refused hemit err]
                rfl

/-- A hook adds the event it reports behind the others, or it does
nothing. -/
theorem hook_cases (p : Pipe) (run : HookRun) (pad : Nat → UInt8) :
    (∃ event, run.offer e = some event
      ∧ (p.ring.output (event.toBytes e pad)).2 = .ok ()
      ∧ p.hook e run pad
        = ({ p with ring := (p.ring.output (event.toBytes e pad)).1 },
          some event))
    ∨ ((∀ event, run.offer e = some event →
        (p.ring.output (event.toBytes e pad)).2 ≠ .ok ())
      ∧ p.hook e run pad = (p, none)) := by
  cases hoffer : run.offer e with
  | none =>
      refine Or.inr ⟨nofun, ?_⟩
      rw [Pipe.hook, hoffer]
  | some event =>
      have hhook : p.hook e run pad
          = ({ p with ring := (p.ring.output (event.toBytes e pad)).1 },
            (run.result e
              (p.ring.output (event.toBytes e pad)).2).toOption.join) := by
        rw [Pipe.hook, hoffer]
      rw [hhook, result_offer hoffer]
      rcases p.ring.output_cases (event.toBytes e pad) with
        ⟨hok, -⟩ | ⟨herr, hsame⟩
      · rw [hok]
        exact Or.inl ⟨event, rfl, hok, rfl⟩
      · rw [herr, hsame]
        refine Or.inr ⟨?_, rfl⟩
        intro event' hevent'
        obtain rfl := Option.some.inj hevent'
        rw [herr]
        exact nofun

end Hook

-- ============================================================== the run

/-- The text of one event more. -/
theorem monitorText_snoc (items : List (Reading × NetEvent))
    (item : Reading × NetEvent) :
    monitorText (items ++ [item]) = monitorText items
      ++ (printEvent (Machine.runState printEvent .default items) item).2 := by
  rw [monitorText, Machine.outputs_append, String.join_append,
    ← monitorText, Machine.outputs, Machine.outputs, String.join_cons,
    String.join_nil, String.append_empty]

/-- Turns of the monitor's loop that find an item. -/
def turns (readings : List Reading) : List PipeStep :=
  readings.flatMap fun reading => [.next, .body reading]

/-- The account of a run: the events the ring has taken are those printed
and those unread. -/
structure Carries (e : Endian) (taken : List NetEvent) (p : Pipe)
    (printed : List (Reading × NetEvent)) (unread : List NetEvent) :
    Prop where
  all : taken = printed.map Prod.snd ++ unread
  text : p.text = monitorText printed
  cache : p.cache = Machine.runState printEvent .default printed
  records : List.Forall₂ (fun bytes event => ∃ pad,
    bytes = event.toBytes e pad) p.ring.records unread
  valid : p.invalid = false

namespace Carries

variable {e : Endian} {taken : List NetEvent} {p : Pipe}
  {printed : List (Reading × NetEvent)} {unread : List NetEvent}

/-- A hook adds an unread event, the one it reports. -/
theorem hook (h : Carries e taken p printed unread) (run : HookRun)
    (pad : Nat → UInt8) :
    Carries e (taken ++ (p.hook e run pad).2.toList) (p.hook e run pad).1
      printed (unread ++ (p.hook e run pad).2.toList) := by
  rcases hook_cases p run pad with ⟨event, -, hok, heq⟩ | ⟨-, heq⟩
  · have hrecords : (p.ring.output (event.toBytes e pad)).1.records
        = p.ring.records ++ [event.toBytes e pad] := by
      rcases p.ring.output_cases (event.toBytes e pad) with
        ⟨-, hadd⟩ | ⟨herr, -⟩
      · exact hadd
      · rw [hok] at herr
        cases herr
    rw [heq]
    refine ⟨?_, h.text, h.cache, ?_, h.valid⟩
    · rw [h.all, List.append_assoc]
    · show List.Forall₂ _ (p.ring.output (event.toBytes e pad)).1.records _
      rw [hrecords]
      exact List.rel_append h.records (.cons ⟨pad, rfl⟩ .nil)
  · rw [heq]
    simpa using h

/-- The loop body prints the oldest unread event. -/
theorem body_held {event : NetEvent}
    (h : Carries e taken p printed (event :: unread)) (hheld : p.held = true)
    (reading : Reading) :
    Carries e taken (p.body e reading) (printed ++ [(reading, event)])
      unread := by
  obtain ⟨bytes, rest, ⟨pad, rfl⟩, hrest, hrecords⟩ :=
    List.forall₂_cons_right_iff.mp h.records
  have hnext : p.ring.next = some (event.toBytes e pad) := by
    rw [RingBuf.next, hrecords, List.head?_cons]
  have hbody : p.body e reading = { p with
      ring := p.ring.consume
      held := false
      cache := (printEvent p.cache (reading, event)).1
      text := p.text ++ (printEvent p.cache (reading, event)).2 } := by
    rw [Pipe.body, hheld, hnext]
    simp only [length_toBytes, ne_eq, not_true_eq_false, if_false,
      ofBytes?_toBytes]
  rw [hbody]
  refine ⟨?_, ?_, ?_, ?_, h.valid⟩
  · rw [h.all, List.map_append, List.append_assoc]
    rfl
  · rw [monitorText_snoc, ← h.cache, ← h.text]
  · rw [Machine.runState_append, ← h.cache]
    rfl
  · show List.Forall₂ _ p.ring.records.tail unread
    rw [hrecords]
    exact hrest

/-- Without an item it does nothing. -/
theorem body_idle (h : Carries e taken p printed unread)
    (hidle : p.held = false ∨ unread = []) (reading : Reading) :
    p.body e reading = p := by
  unfold Pipe.body
  rcases hidle with hheld | rfl
  · rw [hheld]
  · have hnext : p.ring.next = none := by
      rw [RingBuf.next, List.forall₂_nil_right_iff.mp h.records]
      rfl
    rw [hnext]
    cases p.held <;> rfl

/-- One step of anyone. -/
theorem step (h : Carries e taken p printed unread) (s : PipeStep) :
    ∃ printed' unread', Carries e (taken ++ (p.step e s).2.toList)
      (p.step e s).1 printed' unread' := by
  cases s with
  | hook run pad => exact ⟨_, _, h.hook run pad⟩
  | next =>
      refine ⟨printed, unread, ?_⟩
      show Carries e (taken ++ []) p.next printed unread
      rw [List.append_nil]
      exact ⟨h.all, h.text, h.cache, h.records, h.valid⟩
  | body reading =>
      show ∃ printed' unread', Carries e (taken ++ []) (p.body e reading)
        printed' unread'
      rw [List.append_nil]
      cases hheld : p.held with
      | false =>
          rw [h.body_idle (Or.inl hheld)]
          exact ⟨printed, unread, h⟩
      | true =>
          cases unread with
          | nil =>
              rw [h.body_idle (Or.inr rfl)]
              exact ⟨printed, [], h⟩
          | cons event unread =>
              exact ⟨_, _, h.body_held hheld reading⟩

/-- Any number of steps. -/
theorem run (h : Carries e taken p printed unread)
    (steps : List PipeStep) :
    ∃ printed' unread', Carries e
      (taken ++ (Machine.outputs (Pipe.step e) p steps).filterMap id)
      (Machine.runState (Pipe.step e) p steps) printed' unread' := by
  induction steps generalizing taken p printed unread with
  | nil =>
      refine ⟨printed, unread, ?_⟩
      show Carries e (taken ++ []) p printed unread
      rw [List.append_nil]
      exact h
  | cons s steps ih =>
      obtain ⟨printed', unread', hstep⟩ := h.step s
      obtain ⟨printed'', unread'', hrun⟩ := ih hstep
      refine ⟨printed'', unread'', ?_⟩
      have hout : (p.step e s).2.toList ++ (Machine.outputs (Pipe.step e)
          (p.step e s).1 steps).filterMap id
          = (Machine.outputs (Pipe.step e) p (s :: steps)).filterMap id := by
        rw [Machine.outputs]
        cases (p.step e s).2 with
        | none => rfl
        | some event => rfl
      rw [← hout, ← List.append_assoc]
      exact hrun

/-- The start. -/
theorem init (e : Endian) : Carries e [] .init [] [] :=
  ⟨rfl, rfl, rfl, .nil, rfl⟩

/-- The ring holds the unread events, in records of one size. -/
theorem ring (h : Carries e taken p printed unread) :
    p.ring.records.map (NetEvent.ofBytes? e) = unread.map some
      ∧ ∀ record ∈ p.ring.records, recordSize record = 96 := by
  have hrecords := h.records
  clear h
  generalize p.ring.records = records at hrecords
  induction hrecords with
  | nil => exact ⟨rfl, nofun⟩
  | cons hhead _ ih =>
      obtain ⟨pad, rfl⟩ := hhead
      obtain ⟨hmap, hsize⟩ := ih
      constructor
      · rw [List.map_cons, List.map_cons, ofBytes?_toBytes, hmap]
      · intro record hrecord
        rcases List.mem_cons.mp hrecord with rfl | hrecord
        · exact recordSize_toBytes e pad _
        · exact hsize record hrecord

/-- The monitor left to itself prints what is unread. -/
theorem drain (h : Carries e taken p printed unread)
    {readings : List Reading} (hlen : readings.length = unread.length) :
    Carries e taken (Machine.runState (Pipe.step e) p (turns readings))
      (printed ++ readings.zip unread) [] := by
  induction unread generalizing p printed readings with
  | nil =>
      rw [List.eq_nil_of_length_eq_zero hlen, List.zip_nil_left,
        List.append_nil]
      exact h
  | cons event unread ih =>
      obtain ⟨reading, readings, rfl⟩ :=
        List.exists_cons_of_length_eq_add_one hlen
      have hnext : Carries e taken p.next printed (event :: unread) :=
        ⟨h.all, h.text, h.cache, h.records, h.valid⟩
      have hheld : p.next.held = true := by
        obtain ⟨bytes, rest, -, -, hrecords⟩ :=
          List.forall₂_cons_right_iff.mp h.records
        show p.ring.next.isSome = true
        rw [RingBuf.next, hrecords]
        rfl
      have hturn := ih (hnext.body_held hheld reading)
        (Nat.succ.inj hlen)
      rw [List.zip_cons_cons, List.append_cons]
      exact hturn

end Carries

/-- At any point of any run of the hooks and the monitor: the events the
hooks report as put into the ring are those printed and those still in
it, in this order, each as it was; every record the monitor meets is a
`NetEvent`; and the monitor by itself prints the rest, one event a
turn. -/
theorem every_event_once (e : Endian) (steps : List PipeStep) :
    ∃ printed unread,
      (Machine.outputs (Pipe.step e) .init steps).filterMap id
        = printed.map Prod.snd ++ unread
      ∧ (Machine.runState (Pipe.step e) .init steps).text
        = monitorText printed
      ∧ (Machine.runState (Pipe.step e) .init steps).ring.records.map
          (NetEvent.ofBytes? e) = unread.map some
      ∧ (Machine.runState (Pipe.step e) .init steps).invalid = false
      ∧ ∀ readings : List Reading, readings.length = unread.length →
        (Machine.runState (Pipe.step e) .init (steps ++ turns readings)).text
            = monitorText (printed ++ readings.zip unread)
          ∧ (Machine.runState (Pipe.step e) .init
              (steps ++ turns readings)).ring.records = [] := by
  obtain ⟨printed, unread, h⟩ := (Carries.init e).run steps
  refine ⟨printed, unread, h.all, h.text, h.ring.1, h.valid, ?_⟩
  intro readings hlen
  have hdrain := h.drain hlen
  rw [← Machine.runState_append] at hdrain
  exact ⟨hdrain.text, List.forall₂_nil_right_iff.mp hdrain.records⟩

-- ============================================================= the room

/-- An event that a hook offers, in any run, is lost exactly when 10922
events are unread, and there are never more. -/
theorem taken_iff (e : Endian) (steps : List PipeStep) (run : HookRun)
    (pad : Nat → UInt8) (event : NetEvent)
    (hoffer : run.offer e = some event) :
    ((Machine.runState (Pipe.step e) .init steps).step e
        (.hook run pad)).2
      = (if (Machine.runState (Pipe.step e) .init
            steps).ring.records.length < 10922 then some event else none)
    ∧ (Machine.runState (Pipe.step e) .init steps).ring.records.length
      ≤ 10922 := by
  obtain ⟨printed, unread, h⟩ := (Carries.init e).run steps
  generalize Machine.runState (Pipe.step e) .init steps = p at h
  have hsize := h.ring.2
  have hle := RingBuf.length_mul_lt hsize
  have hok := @RingBuf.output_ok_iff _ p.ring (event.toBytes e pad) (by
    rw [recordSize_toBytes]
    exact hsize)
  rw [recordSize_toBytes] at hok
  unfold eventsByteSize at hle hok
  refine ⟨?_, by omega⟩
  show (p.hook e run pad).2 = _
  rcases hook_cases p run pad with ⟨event', hoffer', htaken, heq⟩ | ⟨hlost, heq⟩
  · obtain rfl : event' = event :=
      Option.some.inj (hoffer'.symm.trans hoffer)
    rw [heq, if_pos (by have := hok.mp htaken; omega)]
  · have hfull := mt hok.mpr (hlost event hoffer)
    rw [heq, if_neg (by omega)]

/-- The connection of `quadPeer`, seen by a task without a name. -/
def quadConnect : HookRun :=
  .connect ⟨0, 0, 0, .ok (Vector.replicate 16 0), .ok ()⟩ quadPeer.sk 0

theorem taken_iff_first :
    ∃ event, quadConnect.offer .little = some event
      ∧ (Pipe.init.step .little (.hook quadConnect fun _ => 0)).2
        = some event := by
  refine ⟨_, rfl, ?_⟩
  exact (taken_iff .little [] quadConnect (fun _ => 0) _ rfl).1.trans
    (if_pos (by decide))

end RustGuard
