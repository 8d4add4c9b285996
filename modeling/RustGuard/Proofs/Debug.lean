/-
A debug build is the release build up to the first ttl that is too long,
and then nothing at all.

`debug_reachable_iff` says it of every interleaving: the states a debug
build gets into are those of the release build in which no served
connection asked for a ban whose end time overflows (`fatal`); and its
task dies in those of them, and only those, where the loop is about to
dispatch one. So whatever holds of the release build's states holds of
the debug build's. `overflow_stops_daemon` says what that costs: from the
moment such a request is in the queue behind harmless clients, the daemon
gets to its end by steps of its own, nobody from there on is answered,
whatever anyone does, and the bans in force are the ones before it.

Both rest on one fact about the release build: of a client that is ready
nothing more is heard (`ready_moves`, Waiting.lean).
-/
import RustGuard.Debug
import RustGuard.Proofs.Ttl
import RustGuard.Proofs.Waiting

namespace RustGuard

open Lib

-- ======================================================== what overflows

/-- A request a debug build panics on. -/
def DaemonRequest.overflows (utc : Option Int64) : DaemonRequest → Bool
  | .ban target (some ttl) =>
      (Ipv4Addr.fromStr target).isSome
        && decide (2 ^ 64 ≤ exactEnd (getBootTimeNs utc) ttl)
  | _ => false

/-- The connection's request is one. -/
def fatal (sj : SerdeJson) (clock : Nat → Option Int64)
    (sent : Nat → List UInt8) (c : Nat) : Bool :=
  (validRequest sj (sent c)).any (·.overflows (clock c))

theorem debugDispatch_eq (g : Guard) (utc : Option Int64)
    (req : DaemonRequest) :
    debugDispatch g utc req
      = if req.overflows utc then none else some (dispatch g utc req) := by
  cases req with
  | unban target => rfl
  | list => rfl
  | stats => rfl
  | ban target ttl =>
      cases hip : Ipv4Addr.fromStr target with
      | none =>
          have hno : (DaemonRequest.ban target ttl).overflows utc = false := by
            cases ttl with
            | none => rfl
            | some ttl => simp [DaemonRequest.overflows, hip]
          rw [hno, dispatch_ban_invalid hip, debugDispatch, hip]
          rfl
      | some ip =>
          rw [dispatch_ban hip, debugDispatch, hip]
          cases ttl with
          | none => rfl
          | some ttl =>
              rw [DaemonRequest.overflows, hip, Option.isSome_some,
                Bool.true_and]
              by_cases hfits : exactEnd (getBootTimeNs utc) ttl < 2 ^ 64
              · rw [decide_eq_false (Nat.not_le_of_lt hfits)]
                simp only [debugEndTime_some, if_pos hfits]
                rfl
              · rw [decide_eq_true (Nat.le_of_not_lt hfits)]
                simp only [debugEndTime_some, if_neg hfits]
                rfl

/-- Only a request that names an address can overflow. -/
theorem valid_of_overflows {utc : Option Int64} {req : DaemonRequest}
    (h : req.overflows utc = true) : req.valid = true := by
  cases req with
  | unban | list | stats => cases h
  | ban target ttl =>
      cases ttl with
      | none => cases h
      | some ttl => exact (Bool.and_eq_true_iff.mp h).1

section Handle

variable {sj : SerdeJson} {clock : Nat → Option Int64}
  {sent sent' : Nat → List UInt8} {c : Nat}

/-- What the dispatch of a connection's request makes of it. -/
theorem debugHandle_eq {buf : List UInt8} (hbuf : body? (sent c) = some buf)
    (g : Guard) :
    debugHandle sj g (clock c) buf
      = if fatal sj clock sent c then none
        else some (handle sj g (clock c) buf) := by
  rw [debugHandle, handle, fatal, validRequest, hbuf, Option.map_some]
  cases sj.requestFromSlice buf with
  | error e => rfl
  | ok req =>
      simp only [debugDispatch_eq]
      cases hvalid : req.valid with
      | true => rfl
      | false =>
          have hno : req.overflows (clock c) = false := by
            refine Bool.eq_false_iff.mpr fun hover => ?_
            rw [valid_of_overflows hover] at hvalid
            cases hvalid
          rw [hno]
          rfl

theorem fatal_congr (h : body? (sent' c) = body? (sent c)) :
    fatal sj clock sent' c = fatal sj clock sent c := by
  rw [fatal, fatal, validRequest, validRequest, h]

theorem not_fatal_of_none (h : body? (sent c) = none) :
    fatal sj clock sent c = false := by
  rw [fatal, validRequest, h]
  rfl

/-- A fatal request is in a complete frame. -/
theorem isSome_of_fatal (h : fatal sj clock sent c = true) :
    (body? (sent c)).isSome := by
  cases hbody : body? (sent c) with
  | some buf => rfl
  | none =>
      rw [not_fatal_of_none hbody] at h
      cases h

end Handle

-- ======================================================== the two builds

section Builds

variable {nt : NetworkTypes} {sj : SerdeJson}
  {clock : Nat → Option Int64} {s t : Loop}

/-- No served connection had a fatal request. -/
def Harmless (sj : SerdeJson) (clock : Nat → Option Int64) (s : Loop) :
    Prop :=
  ∀ c < s.served, fatal sj clock s.sent c = false

/-- The loop is about to dispatch a fatal request. -/
def AtPanic (sj : SerdeJson) (clock : Nat → Option Int64) (s : Loop) :
    Prop :=
  (∃ buf, s.phase = .dispatch buf) ∧ fatal sj clock s.sent s.stream = true

/-- What the loop makes of the body it has read. -/
theorem Inv.debugHandle (h : Inv nt sj clock s) {buf : List UInt8}
    (hphase : s.phase = .dispatch buf) :
    RustGuard.debugHandle sj s.guard (clock s.stream) buf
      = if fatal sj clock s.sent s.stream then none
        else some (handle sj s.guard (clock s.stream) buf) := by
  have hhere := h.here
  rw [hphase] at hhere
  have hbuf : body? (s.sent s.stream) = some buf := hhere
  exact debugHandle_eq hbuf s.guard

/-- The dispatch of a fatal request ends the task. -/
theorem debug_panic (h : Inv nt sj clock s) (hp : AtPanic sj clock s) :
    DebugLoop.apply nt sj clock ⟨s, true⟩ .dispatch = some ⟨s, false⟩ := by
  obtain ⟨⟨buf, hphase⟩, hfatal⟩ := hp
  have hhandle := h.debugHandle hphase
  rw [if_pos hfatal] at hhandle
  simp only [DebugLoop.apply, if_true, hphase, hhandle]

/-- Any other action is what it is in a release build. -/
theorem debug_apply (h : Inv nt sj clock s) {a : Action}
    (ha : ¬ (a = .dispatch ∧ AtPanic sj clock s)) :
    DebugLoop.apply nt sj clock ⟨s, true⟩ a
      = (s.apply nt sj clock a).map (⟨·, true⟩) := by
  cases a with
  | connect | deliver | disconnect | frame | accept | acceptErr | readLen
      | readLenErr | readBody | readBodyErr | writeLen | writeLenErr
      | writeBody | writeBodyErr | flush =>
      simp only [DebugLoop.apply, if_true]
  | dispatch =>
      cases hphase : s.phase with
      | accept | readLen | readBody | writeLen | writeBody | flush =>
          simp only [DebugLoop.apply, if_true, hphase]
      | dispatch buf =>
          have hhandle := h.debugHandle hphase
          have hno : ¬ fatal sj clock s.sent s.stream = true :=
            fun hfatal => ha ⟨rfl, ⟨buf, hphase⟩, hfatal⟩
          rw [if_neg hno] at hhandle
          simp only [DebugLoop.apply, if_true, hphase, hhandle, Loop.apply,
            Option.map_some]

/-- Without the task a frame or a hang-up is all there is. -/
theorem debug_dead {a : Action} {d : DebugLoop}
    (happ : DebugLoop.apply nt sj clock ⟨s, false⟩ a = some d) :
    d.alive = false ∧ s.apply nt sj clock a = some d.loop
      ∧ d.loop.phase = s.phase ∧ d.loop.stream = s.stream
      ∧ d.loop.sent = s.sent := by
  cases a with
  | connect | deliver | accept | acceptErr | readLen | readLenErr | readBody
      | readBodyErr | dispatch | writeLen | writeLenErr | writeBody
      | writeBodyErr | flush =>
      cases happ
  | frame ctx ktime =>
      cases happ
      exact ⟨rfl, rfl, rfl, rfl, rfl⟩
  | disconnect c =>
      obtain ⟨t, ht, rfl⟩ := Option.map_eq_some_iff.mp happ
      refine ⟨rfl, ht, ?_⟩
      cases stepped_apply ht with
      | disconnect hc =>
          refine ⟨rfl, rfl, funext fun b => ?_⟩
          show ((s.update c fun conn =>
            { conn with closed := true }).conns b).sent = (s.conns b).sent
          by_cases hb : b = c
          · rw [hb, update_conns_self]
          · rw [update_conns_of_ne hb]

/-- What an action of a debug build is: a panic, or the same in a release
build; without the task, nothing the loop would notice. -/
theorem debug_cases {d d' : DebugLoop} {a : Action}
    (h : Inv nt sj clock d.loop) (happ : d.apply nt sj clock a = some d') :
    (a = .dispatch ∧ AtPanic sj clock d.loop ∧ d' = ⟨d.loop, false⟩)
      ∨ (d.loop.apply nt sj clock a = some d'.loop ∧ d'.alive = d.alive
        ∧ ¬ (a = .dispatch ∧ AtPanic sj clock d.loop)
        ∧ (d.alive = false → AtPanic sj clock d.loop →
          AtPanic sj clock d'.loop)) := by
  obtain ⟨s, alive⟩ := d
  cases alive with
  | false =>
      obtain ⟨hgone, happ', hphase, hstream, hsent⟩ := debug_dead happ
      refine Or.inr ⟨happ', hgone, ?_, fun _ hpanic => ?_⟩
      · rintro ⟨rfl, -⟩
        cases happ
      · rw [AtPanic, hphase, hsent, hstream]
        exact hpanic
  | true =>
      by_cases hpanic : a = .dispatch ∧ AtPanic sj clock s
      · obtain ⟨rfl, hpanic⟩ := hpanic
        rw [debug_panic h hpanic] at happ
        exact Or.inl ⟨rfl, hpanic, (Option.some.inj happ).symm⟩
      · rw [debug_apply h hpanic] at happ
        obtain ⟨t, happ', rfl⟩ := Option.map_eq_some_iff.mp happ
        exact Or.inr ⟨happ', rfl, hpanic, nofun⟩

/-- What was harmless before a step is what is harmless after it, and no
panic. -/
theorem harmless_apply {a : Action} (h : Inv nt sj clock s)
    (happ : s.apply nt sj clock a = some t) :
    Harmless sj clock t
      ↔ Harmless sj clock s ∧ ¬ (a = .dispatch ∧ AtPanic sj clock s) := by
  obtain ⟨hle, hnext⟩ := served_apply h happ
  have hkept : ∀ c < s.served,
      fatal sj clock t.sent c = fatal sj clock s.sent c :=
    fun c hc => fatal_congr (keeps_apply happ c (h.settled c hc)).2
  constructor
  · intro ht
    refine ⟨fun c hc => ?_, ?_⟩
    · rw [← hkept c hc]
      exact ht c (Nat.lt_of_lt_of_le hc hle)
    · rintro ⟨rfl, ⟨buf, hphase⟩, hfatal⟩
      cases stepped_apply happ with
      | dispatch =>
          have hno := ht s.stream (Nat.lt_succ_self s.stream)
          exact Bool.false_ne_true (hno.symm.trans hfatal)
  · rintro ⟨hs, hno⟩ c hc
    rcases Nat.lt_or_ge c s.served with hlt | hge
    · rw [hkept c hlt]
      exact hs c hlt
    · obtain ⟨rfl, hsent, hnone | ⟨rfl, hphase⟩⟩ := hnext c hge hc
      · rw [hsent]
        exact not_fatal_of_none hnone
      · rw [hsent]
        exact Bool.eq_false_iff.mpr fun hfatal =>
          hno ⟨rfl, hphase, hfatal⟩

/-- A debug build follows a release build as far as it lives, with the
actions of the same parties. -/
theorem debug_follows {allowed : Action → Prop} (h : Inv nt sj clock s)
    (hm : Machine.Moves (Loop.apply nt sj clock) allowed s t) :
    Inv nt sj clock t
      ∧ (Machine.Moves (DebugLoop.apply nt sj clock) allowed
          ⟨s, true⟩ ⟨t, true⟩
        ∨ ∃ r, Machine.Moves (DebugLoop.apply nt sj clock) allowed
          ⟨s, true⟩ ⟨r, false⟩) := by
  induction hm with
  | refl => exact ⟨h, Or.inl (.refl _)⟩
  | tail _ hmove ih =>
      rename_i r t _
      obtain ⟨a, ha, happ⟩ := hmove
      obtain ⟨hr, halive | hdead⟩ := ih
      · refine ⟨inv_apply r a t happ hr, ?_⟩
        by_cases hpanic : a = .dispatch ∧ AtPanic sj clock r
        · obtain ⟨rfl, hpanic⟩ := hpanic
          refine Or.inr ⟨r, halive.tail ⟨.dispatch, ha, ?_⟩⟩
          exact debug_panic hr hpanic
        · refine Or.inl (halive.tail ⟨a, ha, ?_⟩)
          rw [debug_apply hr hpanic, happ]
          rfl
      · exact ⟨inv_apply r a t happ hr, Or.inr hdead⟩

/-- As far as that is, if nothing fatal has been served. -/
theorem debug_of_harmless (hm : Reachable nt sj clock s)
    (hs : Harmless sj clock s) : DebugReachable nt sj clock ⟨s, true⟩ := by
  induction hm with
  | refl => exact .refl _
  | tail hr hmove ih =>
      obtain ⟨a, -, happ⟩ := hmove
      have h := Reachable.inv hr
      obtain ⟨hbefore, hno⟩ := (harmless_apply h happ).mp hs
      refine (ih hbefore).tail ⟨a, trivial, ?_⟩
      rw [debug_apply h hno, happ]
      rfl

/-- A state of the debug build, by its parts. -/
structure DebugInv (nt : NetworkTypes) (sj : SerdeJson)
    (clock : Nat → Option Int64) (d : DebugLoop) : Prop where
  reachable : Reachable nt sj clock d.loop
  harmless : Harmless sj clock d.loop
  panic : d.alive = false → AtPanic sj clock d.loop

theorem debugInv_init : DebugInv nt sj clock .init where
  reachable := .refl _
  harmless c hc := absurd hc (Nat.not_lt_zero c)
  panic h := nomatch h

theorem debugInv_apply (d : DebugLoop) (a : Action) (d' : DebugLoop)
    (happ : d.apply nt sj clock a = some d') (h : DebugInv nt sj clock d) :
    DebugInv nt sj clock d' := by
  have hinv := h.reachable.inv
  rcases debug_cases hinv happ with
    ⟨-, hpanic, rfl⟩ | ⟨happ', halive, hno, hstill⟩
  · exact ⟨h.reachable, h.harmless, fun _ => hpanic⟩
  · refine ⟨h.reachable.tail ⟨a, trivial, happ'⟩,
      (harmless_apply hinv happ').mpr ⟨h.harmless, hno⟩, fun hgone => ?_⟩
    rw [halive] at hgone
    exact hstill hgone (h.panic hgone)

theorem DebugReachable.inv {d : DebugLoop}
    (hd : DebugReachable nt sj clock d) : DebugInv nt sj clock d :=
  Machine.Moves.inv (fun d a d' _ happ h => debugInv_apply d a d' happ h) hd
    debugInv_init

/-- Where a debug build gets to, a release build gets to, and no task
comes back. -/
theorem debugMoves_loop {d d' : DebugLoop} (hd : DebugInv nt sj clock d)
    (hm : DebugMoves nt sj clock d d') :
    DebugInv nt sj clock d'
      ∧ Machine.Moves (Loop.apply nt sj clock) (fun _ => True)
        d.loop d'.loop
      ∧ (d.alive = false → d'.alive = false) := by
  refine Machine.Moves.inv (P := fun d' => DebugInv nt sj clock d'
    ∧ Machine.Moves (Loop.apply nt sj clock) (fun _ => True) d.loop d'.loop
    ∧ (d.alive = false → d'.alive = false))
    (fun r a r' _ happ h => ?_) hm ⟨hd, .refl _, id⟩
  obtain ⟨hr, hloop, hgone⟩ := h
  refine ⟨debugInv_apply r a r' happ hr, ?_⟩
  rcases debug_cases hr.reachable.inv happ with
    ⟨-, -, rfl⟩ | ⟨happ', halive, -, -⟩
  · exact ⟨hloop, fun _ => rfl⟩
  · exact ⟨hloop.tail ⟨a, trivial, happ'⟩, fun h => halive.trans (hgone h)⟩

end Builds

-- ====================================================== the whole story

/-- The states of a debug build, in any interleaving, are those of a
release build in which no served connection asked for a ban whose end
overflows; the task is gone in exactly those where the loop is about to
dispatch one. -/
theorem debug_reachable_iff (nt : NetworkTypes) (sj : SerdeJson)
    (clock : Nat → Option Int64) (s : Loop) (alive : Bool) :
    DebugReachable nt sj clock ⟨s, alive⟩
      ↔ Reachable nt sj clock s
        ∧ (∀ c < s.served, fatal sj clock s.sent c = false)
        ∧ (alive = false → (∃ buf, s.phase = .dispatch buf)
          ∧ fatal sj clock s.sent s.stream = true) := by
  constructor
  · intro hd
    exact ⟨hd.inv.reachable, hd.inv.harmless, hd.inv.panic⟩
  · rintro ⟨hs, hharmless, hpanic⟩
    have halive := debug_of_harmless hs hharmless
    cases alive with
    | true => exact halive
    | false =>
        exact halive.tail ⟨.dispatch, trivial,
          debug_panic hs.inv (hpanic rfl)⟩

-- ========================================================== the end of it

/-- Everyone up to client `c` has said it all, and `c` is the first to
ask for a ban whose end overflows. -/
structure Doomed (sj : SerdeJson) (clock : Nat → Option Int64) (s : Loop)
    (c : Nat) : Prop where
  ready : ∀ b ≤ c, s.Ready b
  harmless : ∀ b < c, fatal sj clock s.sent b = false
  fatal : fatal sj clock s.sent c = true

namespace Doomed

variable {nt : NetworkTypes} {sj : SerdeJson}
  {clock : Nat → Option Int64} {s : Loop} {c : Nat} {d : DebugLoop}

/-- What was served has been read, and was harmless. -/
theorem of_queue (hs : DebugInv nt sj clock ⟨s, true⟩)
    (hfatal : RustGuard.fatal sj clock s.sent c = true)
    (hahead : ∀ b, s.served ≤ b → b < c →
      s.Ready b ∧ RustGuard.fatal sj clock s.sent b = false) :
    Doomed sj clock s c where
  ready := by
    intro b hb
    rcases Nat.lt_or_ge b s.served with hlt | hge
    · exact hs.reachable.inv.settled b hlt
    · rcases Nat.lt_or_eq_of_le hb with hlt | rfl
      · exact (hahead b hge hlt).1
      · exact Or.inl (isSome_of_fatal hfatal)
  harmless := by
    intro b hb
    rcases Nat.lt_or_ge b s.served with hlt | hge
    · exact hs.harmless b hlt
    · exact (hahead b hge hb).2
  fatal := hfatal

/-- Whatever happens, the requests stay what they are, and the client is
not served. -/
theorem after (h : Doomed sj clock s c)
    (hs : DebugInv nt sj clock ⟨s, true⟩)
    (hm : DebugMoves nt sj clock ⟨s, true⟩ d) :
    DebugInv nt sj clock d
      ∧ (∀ b ≤ c, body? (d.loop.sent b) = body? (s.sent b))
      ∧ d.loop.served ≤ c := by
  obtain ⟨hd, hloop, -⟩ := debugMoves_loop hs hm
  have hkept : ∀ b ≤ c, body? (d.loop.sent b) = body? (s.sent b) :=
    fun b hb => (ready_moves hloop b (h.ready b hb)).2
  refine ⟨hd, hkept, ?_⟩
  by_contra hlt
  have hno := hd.harmless c (Nat.lt_of_not_le hlt)
  rw [fatal_congr (hkept c (Nat.le_refl c)), h.fatal] at hno
  cases hno

/-- A task that is gone died of that client's request, with the table of
those before it. -/
theorem dead (h : Doomed sj clock s c)
    (hs : DebugInv nt sj clock ⟨s, true⟩)
    (hm : DebugMoves nt sj clock ⟨s, true⟩ d) (hgone : d.alive = false) :
    d.loop.stream = c
      ∧ d.loop.guard.bannedIps = tableAfter sj clock s.sent c := by
  obtain ⟨hd, hkept, hle⟩ := h.after hs hm
  obtain ⟨⟨buf, hphase⟩, hfatal⟩ := hd.panic hgone
  have hserved : d.loop.served = d.loop.stream :=
    served_of_not_dispatched (by rw [hphase]; rfl)
  have hstream : d.loop.stream = c := by
    rcases Nat.lt_or_eq_of_le (hserved ▸ hle) with hlt | heq
    · rw [fatal_congr (hkept _ (Nat.le_of_lt hlt)), h.harmless _ hlt]
        at hfatal
      cases hfatal
    · exact heq
  refine ⟨hstream, ?_⟩
  rw [hd.reachable.inv.table, hserved, hstream]
  exact tableAfter_congr fun b hb => hkept b (Nat.le_of_lt hb)

/-- It comes to that by steps of the daemon alone: a release build would
answer the client by such steps. -/
theorem dies (h : Doomed sj clock s c)
    (hs : DebugInv nt sj clock ⟨s, true⟩) (hc : s.served ≤ c)
    (hconn : c < s.connected) :
    ∃ r, Machine.Moves (DebugLoop.apply nt sj clock)
      (fun a => a.isDaemon = true) ⟨s, true⟩ ⟨r, false⟩ := by
  have hinv := hs.reachable.inv
  have hle : s.stream ≤ s.served := by
    unfold Loop.served
    split <;> omega
  obtain ⟨t, hmoves, hans⟩ := answers hinv (hle.trans hc) hconn
    (isSome_of_fatal h.fatal) fun b _ hb => h.ready b (Nat.le_of_lt hb)
  obtain ⟨ht, halive | hgone⟩ := debug_follows hinv hmoves
  · obtain ⟨-, -, hserved⟩ := h.after hs (halive.mono fun _ _ => trivial)
    exact absurd hans (not_answered_of_silent (ht.silent c hserved))
  · exact hgone

end Doomed

/-- A client in the queue of a debug build asks for a ban whose end
overflows, and everyone ahead of it is ready and asks for no such thing.
Then the task can die of it by steps of the daemon alone, nobody else
doing anything; and whatever anyone does, that client and those behind it
are never written a byte, and if the task dies, it is of that request,
and the table stays for ever the one the requests ahead of it leave. -/
theorem overflow_stops_daemon (nt : NetworkTypes) (sj : SerdeJson)
    (clock : Nat → Option Int64) (s : Loop)
    (hs : DebugReachable nt sj clock ⟨s, true⟩) (c : Nat)
    (hc : s.served ≤ c) (hconn : c < s.connected)
    (hfatal : fatal sj clock s.sent c = true)
    (hahead : ∀ b, s.served ≤ b → b < c →
      s.Ready b ∧ fatal sj clock s.sent b = false) :
    (∃ r, Machine.Moves (DebugLoop.apply nt sj clock)
        (fun a => a.isDaemon = true) ⟨s, true⟩ ⟨r, false⟩)
      ∧ ∀ d, DebugMoves nt sj clock ⟨s, true⟩ d →
        (∀ b, c ≤ b → (d.loop.conns b).tx = [])
        ∧ (d.alive = false → d.loop.stream = c
          ∧ ∀ d', DebugMoves nt sj clock d d' →
            d'.alive = false
            ∧ d'.loop.guard.bannedIps = tableAfter sj clock s.sent c) := by
  have hdoomed := Doomed.of_queue hs.inv hfatal hahead
  refine ⟨hdoomed.dies hs.inv hc hconn, fun d hm => ?_⟩
  obtain ⟨hd, -, hle⟩ := hdoomed.after hs.inv hm
  refine ⟨fun b hb => hd.reachable.inv.silent b (hle.trans hb), ?_⟩
  intro hgone
  refine ⟨(hdoomed.dead hs.inv hm hgone).1, fun d' hm' => ?_⟩
  have hgone' : d'.alive = false := (debugMoves_loop hd hm').2.2 hgone
  exact ⟨hgone', (hdoomed.dead hs.inv (hm.trans hm') hgone').2⟩

/-- `u64::MAX` seconds, from the first client. -/
theorem overflow_stops_daemon_first :
    ∃ s, DebugReachable networkTypes serdeJson (fun _ => none) ⟨s, true⟩
      ∧ (∃ r, Machine.Moves
        (DebugLoop.apply networkTypes serdeJson fun _ => none)
        (fun a => a.isDaemon = true) ⟨s, true⟩ ⟨r, false⟩)
      ∧ ∀ d, DebugMoves networkTypes serdeJson (fun _ => none) ⟨s, true⟩ d →
        ∀ b, (d.loop.conns b).tx = [] := by
  have hrun : (Machine.exec
      (DebugLoop.apply networkTypes serdeJson fun _ => none) .init
      [.connect, .deliver 0 (putFrame (serdeJson.requestToVec
        (.ban "10.0.0.1" (some 18446744073709551615))))]).map
        (fun d => (d.alive, d.loop.served, d.loop.connected,
          fatal serdeJson (fun _ => none) d.loop.sent 0))
      = some (true, 0, 1, true) := by
    decide
  obtain ⟨⟨s, alive⟩, hs, hfacts⟩ := Option.map_eq_some_iff.mp hrun
  obtain ⟨rfl, hserved, hconn, hfatal⟩ : alive = true ∧ s.served = 0
      ∧ s.connected = 1
      ∧ fatal serdeJson (fun _ => none) s.sent 0 = true := by
    simpa using hfacts
  have hreach : DebugReachable networkTypes serdeJson (fun _ => none)
      ⟨s, true⟩ := Machine.Moves.of_exec (fun _ _ => trivial) hs
  obtain ⟨hdies, hafter⟩ := overflow_stops_daemon networkTypes serdeJson
    (fun _ => none) s hreach 0 (by omega) (by omega) hfatal
    fun b _ hb => absurd hb (Nat.not_lt_zero b)
  exact ⟨s, hreach, hdies, fun d hm b => (hafter d hm).1 b (Nat.zero_le b)⟩

end RustGuard
